import RowFormula.Row.Json
import RowFormula.Proofs.Json.Line
import RowFormula.Proofs.Json.RoundTrip

/-! Written rows are read back. A row is one line of text since its JSON has no control characters,
and the line is not blank and does not begin like a list. Dates and errors are left out: they are
written as text and come back as text. -/
namespace RowFormula

open Json (Faithful)

/-- What a cell must be to come back from its text: not a date or an error, and, as a number, finite
and written so that JSON reads the same number. -/
def Cell.ReadsBack : Cell → Prop
  | .number x => Number.isFinite x = true ∧
    (Json.read? (Json.number (.double x)).write).map Cell.ofJson = some (.number x)
  | .date _ | .error _ => False
  | _ => True

instance : (cell : Cell) → Decidable cell.ReadsBack
  | .number _ => inferInstanceAs (Decidable (_ ∧ _))
  | .date _ | .error _ => inferInstanceAs (Decidable False)
  | .null | .bool _ | .text _ => inferInstanceAs (Decidable True)

/-- All cells come back. -/
def Row.ReadsBack (row : Row) : Prop := ∀ entry ∈ row.entries, entry.2.ReadsBack

instance (row : Row) : Decidable row.ReadsBack := List.decidableBAll _ row.entries

/-- Only a number is kept as a number. -/
theorem Cell.exists_number_of_ofJson {j : Json} {x : Float} (h : ofJson j = .number x) :
    ∃ n : JsonNumber, j = .number n ∧ n.toFloat = x := by
  cases j with
  | number n => exact ⟨n, rfl, Cell.number.inj h⟩
  | null | bool | string | array | object | unreadable => cases h

namespace Cell.ReadsBack

variable {cell : Cell}

/-- A cell that comes back from its text comes back from its JSON value. -/
theorem ofJson_toJson (h : cell.ReadsBack) : ofJson cell.toJson = cell := by
  cases cell with
  | null | bool | text => rfl
  | number x =>
      rw [toJson, if_pos h.1]
      rfl
  | date | error => cases h

theorem faithful (h : cell.ReadsBack) (room : Nat) : Faithful room cell.toJson := by
  cases cell with
  | null => exact .null
  | bool b => exact .bool b
  | text s => exact .string s
  | number x =>
      obtain ⟨hFinite, hMap⟩ := h
      obtain ⟨j, hRead, hCell⟩ := Option.map_eq_some_iff.mp hMap
      obtain ⟨n, rfl, hSame⟩ := exists_number_of_ofJson hCell
      rw [toJson, if_pos hFinite]
      exact .of_read? hFinite hRead hSame room
  | date | error => cases h

end Cell.ReadsBack

/-! Rows and their values. -/

/-- A name behind all others is stored at the end. -/
theorem Entries.insert_of_last {α : Type} {name : String} {entries : List (String × α)}
    (h : ∀ entry ∈ entries, entry.1 < name) (value : α) :
    insert name value entries = entries ++ [(name, value)] := by
  induction entries with
  | nil => rfl
  | cons entry entries ih =>
      obtain ⟨hEntry, hEntries⟩ := List.forall_mem_cons.mp h
      rw [insert, if_neg (String.lt_asymm hEntry), if_pos hEntry, ih hEntries, List.cons_append]

/-- Entries in the order of their names are stored one behind the other. -/
theorem Row.entries_foldl_insert {cells : List (String × Cell)} {row : Row}
    (h : Entries.Sorted (row.entries ++ cells)) :
    (cells.foldl (fun row cell => row.insert cell.1 cell.2) row).entries =
      row.entries ++ cells := by
  induction cells generalizing row with
  | nil => simp
  | cons cell cells ih =>
      have hLast : ∀ entry ∈ row.entries, entry.1 < cell.1 := fun entry hEntry =>
        (List.pairwise_append.mp h).2.2 entry hEntry cell List.mem_cons_self
      have hInsert : (row.insert cell.1 cell.2).entries = row.entries ++ [cell] :=
        Entries.insert_of_last hLast cell.2
      rw [List.foldl_cons, ih (by rwa [hInsert, List.append_assoc]), hInsert, List.append_assoc]
      rfl

/-- A row is made of its entries again. -/
theorem Row.ofList_entries (row : Row) : ofList row.entries = row := by
  refine eq_of_get? fun name => congrArg (List.lookup name) ?_
  exact entries_foldl_insert row.sorted

namespace Row.ReadsBack

variable {row : Row}

theorem ofJson?_toJson (h : row.ReadsBack) : ofJson? row.toJson = some row := by
  have hCells :
      row.entries.map (fun entry => (entry.1, Cell.ofJson entry.2.toJson)) = row.entries := by
    refine (List.map_congr_left fun entry hEntry => ?_).trans row.entries.map_id
    rw [(h entry hEntry).ofJson_toJson]
    rfl
  rw [toJson, ofJson?, ofMembers, List.map_map]
  exact congrArg some ((congrArg ofList hCells).trans row.ofList_entries)

theorem faithful (h : row.ReadsBack) (room : Nat) : Faithful (room + 1) row.toJson := by
  refine .object fun member hMember => ?_
  obtain ⟨entry, hEntry, rfl⟩ := List.mem_map.mp hMember
  exact (h entry hEntry).faithful room

/-- A line is read as the row that it is written for. -/
theorem readLine_chars (h : row.ReadsBack) (number : Nat) :
    readLine number row.toJson.chars = .ok row := by
  have hRead : Json.readStrict? (String.ofList row.toJson.chars) = some row.toJson :=
    (h.faithful (Json.maxDepth - 1)).readStrict?_write
  rw [readLine, hRead]
  simp only [h.ofJson?_toJson]

end Row.ReadsBack

/-! Lines. -/

namespace Row

theorem toList_join_line (row : Row) (rows : List Row) :
    (String.join ((row :: rows).map line)).toList =
      row.toJson.chars ++ '\n' :: (String.join (rows.map line)).toList := by
  simp [String.toList_join, line, Json.write]

/-- The first character of a written row is not blank. -/
theorem not_blank_chars_toJson (row : Row) : row.toJson.chars.all Text.isBlank = false := rfl

/-- Lines are read as the rows that they are written for. -/
theorem readLines_lines {rows : List Row} (h : ∀ row ∈ rows, row.ReadsBack) (number : Nat) :
    readLines number ((String.join (rows.map line)).toList.splitOn '\n') = .ok rows := by
  induction rows generalizing number with
  | nil => rfl
  | cons row rows ih =>
      obtain ⟨hRow, hRows⟩ := List.forall_mem_cons.mp h
      have hLine : ∀ c ∈ row.toJson.chars, (c == '\n') = false := by
        intro c hMem
        have hPlain := row.toJson.chars_plain c hMem
        rw [beq_eq_false_iff_ne]
        rintro rfl
        exact absurd hPlain (by decide)
      have hRest : readLines (number + 1)
          ((String.join (rows.map line)).toList.splitOnP (· == '\n')) = .ok rows :=
        ih hRows (number + 1)
      rw [toList_join_line, List.splitOn, List.splitOnP_append_cons_of_forall_mem hLine '\n' rfl,
        readLines, not_blank_chars_toJson, hRow.readLine_chars, hRest]
      rfl

theorem mapM_ofJson? {rows : List Row} (h : ∀ row ∈ rows, row.ReadsBack) :
    (rows.map toJson).mapM ofJson? = some rows :=
  Json.mapM_map_of_forall fun row hRow => (h row hRow).ofJson?_toJson

/-- The first character tells a list from lines. -/
theorem readAll_ofList {c : Char} (h : Text.isBlank c = false) (cs : List Char) :
    readAll (String.ofList (c :: cs)) =
      if c = '[' then readList (String.ofList (c :: cs))
      else readLines 1 ((c :: cs).splitOn '\n') := by
  have hStart : Text.trimStart (String.ofList (c :: cs)) = String.ofList (c :: cs) := by
    simp [Text.trimStart, Text.dropBlanks, h]
  simp only [readAll, hStart, String.toList_ofList, List.head?_cons, Option.some.injEq]

/-- Lines of rows are no array, so they are read one by one. -/
theorem readAll_lines (rows : List Row) :
    readAll (String.join (rows.map line)) =
      readLines 1 ((String.join (rows.map line)).toList.splitOn '\n') := by
  cases rows with
  | nil => rfl
  | cons row rows =>
      obtain ⟨cs, hCons⟩ : ∃ cs, (String.join ((row :: rows).map line)).toList = '\x7b' :: cs :=
        ⟨_, toList_join_line row rows⟩
      rw [hCons, ← String.ofList_toList (s := String.join _), hCons, readAll_ofList (by decide)]
      rfl

end Row

/-- Rows are read back in order from their lines, one behind the other, and from the list of them,
whatever texts they hold, if their numbers are. -/
theorem written_rows_read_back {rows : List Row} (h : ∀ row ∈ rows, row.ReadsBack) :
    Row.readAll (String.join (rows.map Row.line)) = .ok rows ∧
      Row.readAll (Json.array (rows.map Row.toJson)).write = .ok rows := by
  constructor
  · rw [Row.readAll_lines, Row.readLines_lines h]
  · have hItems : Faithful Json.maxDepth (.array (rows.map Row.toJson)) := by
      refine .array fun item hItem => ?_
      obtain ⟨row, hRow, rfl⟩ := List.mem_map.mp hItem
      exact (h row hRow).faithful _
    have hList : Row.readAll (Json.array (rows.map Row.toJson)).write =
        Row.readList (Json.array (rows.map Row.toJson)).write := Row.readAll_ofList rfl _
    rw [hList, Row.readList, hItems.readStrict?_write]
    simp only [Row.mapM_ofJson? h]

/-- Rows of which one has a text with quotes, a line feed and a control character, and one is
empty. -/
theorem written_rows_read_back_note :
    let rows : List Row := [
      ⟨[("Note", .text "say \"ö\" \\n\n\t[1]\x01"), ("Qty", .number 0.5)], by decide⟩,
      .empty,
      ⟨[("", .bool true), ("\x7d", .null)], by decide⟩]
    (∀ row ∈ rows, row.ReadsBack) ∧ Row.readAll (String.join (rows.map Row.line)) = .ok rows ∧
      Row.readAll (Json.array (rows.map Row.toJson)).write = .ok rows := by
  intro rows
  have hRows : ∀ row ∈ rows, row.ReadsBack := by decide +kernel
  exact ⟨hRows, written_rows_read_back hRows⟩

end RowFormula
