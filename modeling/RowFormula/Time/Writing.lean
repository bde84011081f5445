import RowFormula.Time.Instant
import RowFormula.Number.Text

/-! The text of instants: the standard form with milliseconds, and patterns. -/
namespace RowFormula.Time

open RowFormula.Number (padded paddedInt digitChars)

/-- Four digits; outside the years 0 to 9999 also a sign. -/
def yearChars (year : Int) : List Char :=
  if 0 ≤ year ∧ year ≤ 9999 then padded 4 year.natAbs
  else (if year < 0 then '-' else '+') :: padded 4 year.natAbs

/-- The standard form `2024-01-31T15:04:05.250Z`. A leap second is second 60. -/
def Instant.isoChars (t : Instant) : List Char :=
  let date := t.civil
  let second := if t.inLeapSecond then t.secondOfMinute + 1 else t.secondOfMinute
  yearChars date.year ++ '-' :: padded 2 date.month ++ '-' :: padded 2 date.day ++
    'T' :: padded 2 t.hour ++ ':' :: padded 2 t.minute ++ ':' :: padded 2 second ++
    '.' :: padded 3 (t.millis % 1000) ++ ['Z']

/-- The standard form, cut to whole milliseconds. -/
def Instant.iso (t : Instant) : String := String.ofList t.isoChars

def monthNames : List String :=
  ["January", "February", "March", "April", "May", "June", "July", "August", "September",
   "October", "November", "December"]

def weekdayNames : List String :=
  ["Sunday", "Monday", "Tuesday", "Wednesday", "Thursday", "Friday", "Saturday"]

namespace Pattern

/-- A part of an instant that a pattern can ask for. -/
inductive Part where
  | year | shortYear
  | monthName | monthShort | month2 | month
  | day2 | day | weekdayName | weekdayShort
  | hour2 | hour | hourOf12Two | hourOf12
  | minute2 | second2 | millis3
  | halfUpper | halfLower
  deriving DecidableEq

/-- The words of a pattern. Where several begin at one place, the first in the list counts. -/
def words : List (String × Part) :=
  [("YYYY", .year), ("YY", .shortYear), ("MMMM", .monthName), ("MMM", .monthShort),
   ("MM", .month2), ("M", .month), ("DD", .day2), ("D", .day), ("dddd", .weekdayName),
   ("ddd", .weekdayShort), ("HH", .hour2), ("H", .hour), ("hh", .hourOf12Two),
   ("h", .hourOf12), ("mm", .minute2), ("ss", .second2), ("SSS", .millis3),
   ("A", .halfUpper), ("a", .halfLower)]

/-- A piece of a pattern. -/
inductive Piece where
  | literal (c : Char)
  /-- What stands in square brackets. -/
  | block (content : List Char)
  | part (asked : Part)
  deriving DecidableEq

/-- The piece that begins with a character, and how many of the following characters
belong to it. A bracket that is never closed is a literal. -/
def pieceAt (c : Char) (rest : List Char) : Piece × Nat :=
  if c = '[' ∧ ']' ∈ rest then
    let content := rest.takeWhile (· ≠ ']')
    (.block content, content.length + 1)
  else
    match words.find? fun word => word.1.toList.isPrefixOf (c :: rest) with
    | some (word, part) => (.part part, word.length - 1)
    | none => (.literal c, 0)

/-- The pieces of a pattern. -/
def pieces : List Char → List Piece
  | [] => []
  | c :: rest => (pieceAt c rest).1 :: pieces (rest.drop (pieceAt c rest).2)
termination_by cs => cs.length
decreasing_by simp only [List.length_drop, List.length_cons]; omega

/-- The hour on a twelve-hour dial. -/
def dialHour (t : Instant) : Nat := if t.hour % 12 = 0 then 12 else t.hour % 12

/-- The text of one part. -/
def Part.write (t : Instant) (part : Part) : List Char :=
  let date := t.civil
  let monthName := (monthNames.getD (date.month - 1) "").toList
  let dayName := (weekdayNames.getD (weekday t.day) "").toList
  match part with
  | .year => paddedInt 4 date.year
  | .shortYear => padded 2 (date.year % 100).toNat
  | .monthName => monthName
  | .monthShort => monthName.take 3
  | .month2 => padded 2 date.month
  | .month => digitChars date.month
  | .day2 => padded 2 date.day
  | .day => digitChars date.day
  | .weekdayName => dayName
  | .weekdayShort => dayName.take 3
  | .hour2 => padded 2 t.hour
  | .hour => digitChars t.hour
  | .hourOf12Two => padded 2 (dialHour t)
  | .hourOf12 => digitChars (dialHour t)
  | .minute2 => padded 2 t.minute
  | .second2 => padded 2 t.secondOfMinute
  | .millis3 => padded 3 t.millis
  | .halfUpper => (if t.hour < 12 then "AM" else "PM").toList
  | .halfLower => (if t.hour < 12 then "am" else "pm").toList

/-- The text of one piece. A block loses every opening bracket that it begins with. -/
def Piece.write (t : Instant) : Piece → List Char
  | .literal c => [c]
  | .block content => content.dropWhile (· = '[')
  | .part asked => asked.write t

end Pattern

/-- The instant written by a pattern. -/
def Instant.formatChars (t : Instant) (pattern : List Char) : List Char :=
  (Pattern.pieces pattern).flatMap (Pattern.Piece.write t)

def Instant.format (t : Instant) (pattern : String) : String :=
  String.ofList (t.formatChars pattern.toList)

end RowFormula.Time
