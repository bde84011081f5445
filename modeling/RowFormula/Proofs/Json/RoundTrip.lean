import RowFormula.Json.Reader
import RowFormula.Proofs.Json.Lexeme

/-! Written JSON is read back as it was. The text of a value has the tokens of the value, and these
lead through the value inside any open lists and objects that leave room for it. -/
namespace RowFormula.Json

open Number (Numeral)

mutual

/-- The tokens of the compact text. -/
def tokens : Json → List Token
  | .null | .unreadable => [.scalar .null]
  | .bool b => [.scalar (.bool b)]
  | .number n => [.scalar (.number n)]
  | .string s => [.string (some s)]
  | .array items => .openList :: [.comma].intercalate (itemTokens items) ++ [.closeList]
  | .object members =>
    .openObject :: [.comma].intercalate (memberTokens members) ++ [.closeObject]

def itemTokens : List Json → List (List Token)
  | [] => []
  | item :: items => item.tokens :: itemTokens items

def memberTokens : List (String × Json) → List (List Token)
  | [] => []
  | (name, value) :: members =>
    (.string (some name) :: .colon :: value.tokens) :: memberTokens members

end

/-! The recursions over the parts of a value treat each part alike. -/

/-- A function on lists that goes from member to member is a map. -/
theorem eq_map_of_cons {α β : Type} {part : α → β} {parts : List α → List β} (hNil : parts [] = [])
    (hCons : ∀ a as, parts (a :: as) = part a :: parts as) (as : List α) :
    parts as = as.map part := by
  induction as with
  | nil => exact hNil
  | cons a as ih => rw [hCons, ih, List.map_cons]

theorem itemTexts_eq (items : List Json) : itemTexts items = items.map chars :=
  eq_map_of_cons rfl (fun _ _ => rfl) items

theorem memberTexts_eq (members : List (String × Json)) :
    memberTexts members = members.map fun member => memberChars member.1 member.2.chars :=
  eq_map_of_cons rfl (fun _ _ => rfl) members

theorem itemTokens_eq (items : List Json) : itemTokens items = items.map tokens :=
  eq_map_of_cons rfl (fun _ _ => rfl) items

theorem memberTokens_eq (members : List (String × Json)) :
    memberTokens members =
      members.map fun member => .string (some member.1) :: .colon :: member.2.tokens :=
  eq_map_of_cons rfl (fun _ _ => rfl) members

theorem itemsReadable_iff (items : List Json) :
    itemsReadable items = true ↔ ∀ item ∈ items, item.isReadable = true := by
  induction items with
  | nil => simp [itemsReadable]
  | cons item items ih => simp [itemsReadable, ih]

theorem membersReadable_iff (members : List (String × Json)) :
    membersReadable members = true ↔ ∀ member ∈ members, member.2.isReadable = true := by
  induction members with
  | nil => simp [membersReadable]
  | cons member members ih => simp [membersReadable, ih]

/-- What is read from each written item is read from the list of them. -/
theorem mapM_map_of_forall {α β : Type} {toItem : α → β} {ofItem? : β → Option α} {as : List α}
    (h : ∀ a ∈ as, ofItem? (toItem a) = some a) : (as.map toItem).mapM ofItem? = some as := by
  induction as with
  | nil => rfl
  | cons a as ih =>
      obtain ⟨ha, hAs⟩ := List.forall_mem_cons.mp h
      simp [ha, ih hAs]

/-- A value with nothing unreadable whose numbers are read back, nested no deeper than some number
of lists and objects. -/
inductive Faithful : Nat → Json → Prop where
  | null {room : Nat} : Faithful room .null
  | bool {room : Nat} (b : Bool) : Faithful room (.bool b)
  | number {room : Nat} {n : JsonNumber} (h : number? (numberChars n) = some (.number n, [])) :
    Faithful room (.number n)
  | string {room : Nat} (s : String) : Faithful room (.string s)
  | array {room : Nat} {items : List Json} (h : ∀ item ∈ items, Faithful room item) :
    Faithful (room + 1) (.array items)
  | object {room : Nat} {members : List (String × Json)}
    (h : ∀ member ∈ members, Faithful room member.2) : Faithful (room + 1) (.object members)

/-! The tokens of a value lead from where a value has to come to where it has been read. -/

namespace Phase

/-- Inside a list of which some items have been read, the last first. -/
def inList (stack : List Frame) : List Json → Phase
  | [] => .firstItem stack
  | read => .value (.list read :: stack)

/-- Inside an object of which some members have been read, the last first. -/
def inObject (stack : List Frame) : List (String × Json) → Phase
  | [] => .firstName stack
  | read => .member read true stack

/-- Parts with commas between them are read one after the other when a comma behind a part leads on
to the next one and the closing bracket to the whole. -/
theorem run_separated {α : Type} {tokens : α → List Token} (next whole : List α → Phase)
    (close : Token) {parts : List α}
    (hComma : ∀ part ∈ parts, ∀ read rest,
      run (next read) (tokens part ++ .comma :: rest) = run (next (part :: read)) rest)
    (hClose : ∀ part ∈ parts, ∀ read rest,
      run (next read) (tokens part ++ close :: rest) = run (whole (part :: read).reverse) rest)
    (hSome : parts ≠ []) (read : List α) (rest : List Token) :
    run (next read) ([Token.comma].intercalate (parts.map tokens) ++ close :: rest) =
      run (whole (read.reverse ++ parts)) rest := by
  induction parts generalizing read with
  | nil => exact absurd rfl hSome
  | cons part parts ih =>
      cases parts with
      | nil => simpa using hClose part (by simp) read rest
      | cons other parts =>
          have hRest := ih (fun part hPart => hComma part (List.mem_cons_of_mem _ hPart))
            (fun part hPart => hClose part (List.mem_cons_of_mem _ hPart)) (by simp) (part :: read)
          calc run (next read)
                ([Token.comma].intercalate ((part :: other :: parts).map tokens) ++ close :: rest)
            _ = run (next read) (tokens part ++ .comma ::
                  ([Token.comma].intercalate ((other :: parts).map tokens) ++ close :: rest)) := by
                simp [List.intercalate_cons_cons]
            _ = run (whole ((part :: read).reverse ++ other :: parts)) rest := by
                rw [hComma part (by simp), hRest]
            _ = run (whole (read.reverse ++ part :: other :: parts)) rest := by simp

/-- A value does not begin like the end of a list. -/
theorem run_inList (j : Json) (stack : List Frame) (read : List Json) (rest : List Token) :
    run (inList stack read) (j.tokens ++ rest) =
      run (.value (.list read :: stack)) (j.tokens ++ rest) := by
  cases read with
  | nil => cases j <;> rfl
  | cons item read => rfl

/-- A name and a colon make room for the value of a member. -/
theorem run_inObject (name : String) (stack : List Frame) (read : List (String × Json))
    (rest : List Token) :
    run (inObject stack read) (.string (some name) :: .colon :: rest) =
      run (.value (.object read true name :: stack)) rest := by
  cases read <;> rfl

/-- Where there is room no value is too deep. -/
theorem closed_of_room {stack : List Frame} (hRoom : stack.length < maxDepth) (j : Json) :
    closed j stack = .after j stack := by
  rw [closed, if_pos hRoom]

section Room

variable {stack : List Frame} (hRoom : stack.length < maxDepth)

include hRoom

/-- A list is read when its items are. -/
theorem run_list {items : List Json}
    (hRead : ∀ item ∈ items, ∀ read rest, run (.value (.list read :: stack)) (item.tokens ++ rest) =
      run (.after item (.list read :: stack)) rest)
    (rest : List Token) :
    run (.firstItem stack) ([Token.comma].intercalate (items.map tokens) ++ .closeList :: rest) =
      run (.after (.array items) stack) rest := by
  have hItem : ∀ item ∈ items, ∀ read rest, run (inList stack read) (item.tokens ++ rest) =
      run (.after item (.list read :: stack)) rest := fun item hMem read rest =>
    (run_inList item stack read rest).trans (hRead item hMem read rest)
  by_cases hSome : items = []
  · subst hSome
    exact congrArg (run · rest) (closed_of_room hRoom _)
  · refine run_separated (inList stack) (fun items => .after (.array items) stack) .closeList
      (fun item hMem read rest => hItem item hMem read (.comma :: rest))
      (fun item hMem read rest => ?_) hSome [] rest
    rw [hItem item hMem, ← closed_of_room hRoom]
    rfl

/-- An object is read when its values are. -/
theorem run_object {members : List (String × Json)}
    (hRead : ∀ member ∈ members, ∀ read rest,
      run (.value (.object read true member.1 :: stack)) (member.2.tokens ++ rest) =
        run (.after member.2 (.object read true member.1 :: stack)) rest)
    (rest : List Token) :
    run (.firstName stack)
        ([Token.comma].intercalate
          (members.map fun member => .string (some member.1) :: .colon :: member.2.tokens) ++
            .closeObject :: rest) =
      run (.after (.object members) stack) rest := by
  have hMember : ∀ member ∈ members, ∀ read rest,
      run (inObject stack read)
          ((.string (some member.1) :: .colon :: member.2.tokens) ++ rest) =
        run (.after member.2 (.object read true member.1 :: stack)) rest :=
    fun member hMem read rest =>
      (run_inObject member.1 stack read _).trans (hRead member hMem read rest)
  by_cases hSome : members = []
  · subst hSome
    exact congrArg (run · rest) (closed_of_room hRoom _)
  · refine run_separated (inObject stack) (fun members => .after (.object members) stack)
      .closeObject
      (fun member hMem read rest => hMember member hMem read (.comma :: rest))
      (fun member hMem read rest => ?_) hSome [] rest
    rw [hMember member hMem, ← closed_of_room hRoom]
    rfl

end Room

end Phase

namespace Faithful

variable {room : Nat} {j : Json}

/-- The text of a value is cut into the tokens of the value. -/
theorem lexes (h : Faithful room j) {follow : List Char} (hEnded : Ended follow) :
    Lexes j.chars j.tokens follow := by
  induction h generalizing follow with
  | null => exact .one rfl rfl
  | bool b => cases b <;> exact .one rfl rfl
  | number hNumber => exact .number hNumber hEnded
  | string s => exact .string s follow
  | array _ ih =>
      rw [chars, Json.tokens, itemTexts_eq, itemTokens_eq]
      exact .bracketed ⟨rfl, fun _ => rfl⟩ ⟨rfl, fun _ => rfl⟩ rfl fun item hItem _ => ih item hItem
  | object _ ih =>
      rw [chars, Json.tokens, memberTexts_eq, memberTokens_eq]
      refine .bracketed ⟨rfl, fun _ => rfl⟩ ⟨rfl, fun _ => rfl⟩ rfl
        fun member hMember follow hFollow => ?_
      have hColon : Lexes [':'] [.colon] (member.2.chars ++ follow) := .one rfl rfl
      exact (Lexes.string member.1 _).append (hColon.append (ih member hMember hFollow))

/-- A value is read inside any open lists and objects that leave room for it. -/
theorem run (h : Faithful room j) {stack : List Frame} (hRoom : stack.length + room ≤ maxDepth)
    (rest : List Token) :
    Phase.run (.value stack) (j.tokens ++ rest) = Phase.run (.after j stack) rest := by
  induction h generalizing stack rest with
  | null | bool | number | string => rfl
  | array _ ih =>
      rw [Json.tokens, itemTokens_eq, List.append_assoc, List.cons_append]
      exact Phase.run_list (by omega)
        (fun item hItem read => ih item hItem (by rw [List.length_cons]; omega)) rest
  | object _ ih =>
      rw [Json.tokens, memberTokens_eq, List.append_assoc, List.cons_append]
      exact Phase.run_object (by omega)
        (fun member hMember read => ih member hMember (by rw [List.length_cons]; omega)) rest

/-- What is read back can be read. -/
theorem isReadable (h : Faithful room j) : j.isReadable = true := by
  induction h with
  | null | bool | number | string => rfl
  | array _ ih =>
      rw [Json.isReadable]
      exact (itemsReadable_iff _).mpr ih
  | object _ ih =>
      rw [Json.isReadable]
      exact (membersReadable_iff _).mpr ih

/-- A value is read back from its text. -/
theorem read?_write (h : Faithful maxDepth j) : read? j.write = some j := by
  have hTokens := (h.lexes (show Ended [] by simp [Ended])).tokens?_length
  have hRun := h.run (show ([] : List Frame).length + maxDepth ≤ maxDepth by simp) []
  rw [List.append_nil] at hRun
  simp [read?, write, hTokens, hRun, Phase.run]

/-- What is read back at full depth is read back as a whole text. -/
theorem readStrict?_write (h : Faithful maxDepth j) : readStrict? j.write = some j := by
  rw [readStrict?, h.read?_write, Option.filter_some, if_pos h.isReadable]

end Faithful

/-! Numbers that are read back alone. -/

/-- Text that is not blank has a token. -/
theorem tokens?_ne_nil {c : Char} (hSpace : isSpace c = false) (fuel : Nat) (cs : List Char) :
    tokens? fuel (c :: cs) ≠ some [] := by
  intro h
  cases fuel with
  | zero =>
      rw [tokens?.eq_2 _ (by simp [hSpace])] at h
      cases h
  | succ fuel =>
      rw [tokens?_cons hSpace] at h
      obtain ⟨read, -, hRead⟩ := Option.bind_eq_some_iff.mp h
      obtain ⟨more, -, hMore⟩ := Option.map_eq_some_iff.mp hRead
      cases hMore

/-- Text with the characters of numbers that is read as a value is a number in whole. -/
theorem number?_of_read? {cs : List Char} {j : Json} (hNumeral : Numeral cs)
    (h : read? (String.ofList cs) = some j) : number? cs = some (j, []) := by
  rw [read?, String.toList_ofList] at h
  obtain ⟨tokens, hTokens, hRun⟩ := Option.bind_eq_some_iff.mp h
  cases cs with
  | nil =>
      cases hTokens
      cases hRun
  | cons c cs =>
      have hFirst := hNumeral c List.mem_cons_self
      rw [List.length_cons, tokens?_cons (isSpace_of_isNumeral hFirst),
        token?_of_isNumeral hFirst] at hTokens
      obtain ⟨⟨token, rest⟩, hToken, hMore⟩ := Option.bind_eq_some_iff.mp hTokens
      obtain ⟨more, hRest, rfl⟩ := Option.map_eq_some_iff.mp hMore
      obtain ⟨⟨value, rest⟩, hNumber, hPair⟩ := Option.map_eq_some_iff.mp hToken
      cases hPair
      cases more with
      | cons next more => cases hRun
      | nil =>
          cases hRun
          cases rest with
          | nil => exact hNumber
          | cons d rest =>
              have hMem : d ∈ c :: cs := (number?_suffix hNumber).subset List.mem_cons_self
              exact absurd hRest (tokens?_ne_nil (isSpace_of_isNumeral (hNumeral d hMem)) _ rest)

/-- A finite number is not lost in its text when the text is read as the same number. -/
theorem Faithful.of_read? {x : Float} {n : JsonNumber} (hFinite : Number.isFinite x = true)
    (hRead : read? (Json.number (.double x)).write = some (.number n)) (hSame : n.toFloat = x)
    (room : Nat) : Faithful room (.number (.double x)) := by
  obtain ⟨hNumeral, hMark⟩ := Number.json_write_of_isFinite hFinite
  have hNumber : number? (numberChars (.double x)) = some (.number n, []) :=
    number?_of_read? hNumeral hRead
  cases n with
  | double y =>
      obtain rfl : y = x := hSame
      exact .number hNumber
  | integer n =>
      rcases hMark with hPoint | hExponent
      · exact absurd rfl (not_integer_of_mem hNumber hPoint (by decide) (by decide) n)
      · exact absurd rfl (not_integer_of_mem hNumber hExponent (by decide) (by decide) n)

end RowFormula.Json
