import Mathlib.Order.Bounds.Image
import RowFormula.Formula.Function.Apply
import RowFormula.Proofs.Number.Truncation
import RowFormula.Proofs.Text.Occurrence

/-! The place at which a word is found in a text. It is the least one at which the word is the
middle of the text, so searching and cutting out agree on what a place is: also for the empty word,
behind the last character, and for a start that is no place of the text. -/
namespace RowFormula.TextFunction

open Argument (countLimit)
open Number (whole?)
open Text (OccursAt)
open Time (Instant)

/-- The place at which a word is found in a text, from a start on. -/
def found (now : Instant) (word text : String) (start : Float) : Outcome Value :=
  Function.call now (.text .find) [.text word, .text text, .number start]

/-- The middle of a text, from a place on. -/
def middle (now : Instant) (text : String) (place count : Float) : Outcome Value :=
  Function.call now (.text .mid) [.text text, .number place, .number count]

/-- The number of characters of a text. -/
def lengthOf (now : Instant) (text : String) : Outcome Value :=
  Function.call now (.text .len) [.text text]

/-- The places from a start on, up to the one behind the last character, at which a word is the
middle of a text. -/
def placesFrom (start : WithBot (WithTop ℤ)) (word text : String) : Set ℕ :=
  {p | start ≤ p ∧ p ≤ text.length + 1 ∧ takeMid p word.length text.toList = word.toList}

/-- A word is the middle of a text where it occurs. -/
theorem takeMid_eq_iff (word cs : List Char) (skipped : ℕ) :
    skipped ≤ cs.length ∧ takeMid (skipped + 1) word.length cs = word ↔
      OccursAt word cs skipped := by
  rw [OccursAt, List.prefix_iff_eq_take, takeMid, Nat.add_sub_cancel, eq_comm (a := word)]

/-- The search gives the first occurrence from a place on, counted from one, and otherwise zero. -/
theorem findFrom_cases (word cs : List Char) (place : ℕ) :
    (∃ n, findFrom word cs place = n + 1 ∧ IsLeast {n | place - 1 ≤ n ∧ OccursAt word cs n} n) ∨
      findFrom word cs place = 0 ∧ ∀ n, place - 1 ≤ n → ¬OccursAt word cs n := by
  simp only [findFrom]
  split
  case isTrue hBeyond =>
    exact Or.inr ⟨rfl, fun n hn hOccurs => hBeyond.not_ge (hn.trans hOccurs.1)⟩
  case isFalse hInside =>
    have hDrop (n : ℕ) : OccursAt word (cs.drop (place - 1)) n ↔ OccursAt word cs (place - 1 + n) :=
      Text.occursAt_drop_iff (not_lt.mp hInside)
    split
    case h_1 n hFound =>
      obtain ⟨hOccurs, hFirst⟩ := Text.indexOf?_eq_some_iff.mp hFound
      refine Or.inl ⟨_, rfl, ⟨Nat.le_add_right _ _, (hDrop n).mp hOccurs⟩, ?_⟩
      rintro m ⟨hm, hOther⟩
      obtain ⟨j, rfl⟩ := Nat.exists_eq_add_of_le hm
      exact Nat.add_le_add_left (not_lt.mp fun hj => hFirst j hj ((hDrop j).mpr hOther)) _
    case h_2 hNone =>
      refine Or.inr ⟨rfl, fun m hm hOther => ?_⟩
      obtain ⟨j, rfl⟩ := Nat.exists_eq_add_of_le hm
      exact Text.indexOf?_eq_none_iff.mp hNone j ((hDrop j).mpr hOther)

/-- A place or a number of characters beyond the end of the text acts like the greatest one. -/
theorem takeMid_min {cs : List Char} {limit : ℕ} (hFew : cs.length < limit) (p n : ℕ) :
    takeMid (min limit p) (min limit n) cs = takeMid p n cs := by
  have hDrop : cs.drop (min limit p - 1) = cs.drop (p - 1) := by
    rcases le_total p limit with hp | hp
    · rw [min_eq_right hp]
    · rw [min_eq_left hp, List.drop_of_length_le (by omega), List.drop_of_length_le (by omega)]
  rw [takeMid, takeMid, hDrop, List.take_eq_take_iff, List.length_drop]
  omega

/-- The length of a text is the number of its characters. -/
theorem lengthOf_eq (now : Instant) (text : String) :
    lengthOf now text = .ok (.number (Number.ofInt text.length)) := by
  change Except.ok (countOf text.toList.length) = _
  rw [String.length_toList, countOf]

/-- No text tells places and counts beyond the greatest ones apart. -/
theorem middle_eq (now : Instant) {text : String} (hSize : text.utf8ByteSize < 2 ^ 63)
    {place count : Float} {p n : ℕ} (hPlace : whole? place = some p)
    (hCount : whole? count = some n) (hOne : 1 ≤ p) :
    middle now text place count = .ok (.text (String.ofList (takeMid p n text.toList))) := by
  have hFew := Argument.length_lt_countLimit hSize
  have hCall : middle now text place count =
      .ok (textOf (takeMid (min countLimit p) (min countLimit n) text.toList)) := by
    change TextFunction.apply .mid [.text text, .number place, .number count] = _
    simp only [apply, Argument.number, Argument.chars, Argument.text, Value.toText,
      List.getElem?_cons_zero, List.getElem?_cons_succ, Argument.toNumber_number hPlace,
      Argument.toNumber_number hCount, bind, Except.bind, pure, Except.pure,
      Argument.toPlace_of_natCast hPlace hOne, Argument.toCount_of_natCast hCount]
  rw [hCall, takeMid_min (by omega), textOf]

/-- The place found, as a number, where the start can be taken for a place. -/
theorem found_eq (now : Instant) (word text : String) {start : Float} {k : WithBot (WithTop ℤ)}
    (hWhole : whole? start = some k) :
    found now word text start = (Argument.toPlace start).map fun place =>
      .number (Number.ofInt (findFrom word.toList text.toList place)) := by
  change TextFunction.apply .find [.text word, .text text, .number start] = _
  simp only [apply, Argument.numberOr, Argument.chars, Argument.text, Value.toText,
    List.getElem?_cons_zero, List.getElem?_cons_succ, Argument.toNumber_number hWhole]
  rfl

/-- The places are those at which the word occurs, counted from one. -/
theorem placesFrom_eq {text : String} (hSize : text.utf8ByteSize < 2 ^ 63)
    {k : WithBot (WithTop ℤ)} (hOne : 1 ≤ k) {place : ℕ}
    (hCompare : ∀ p : ℕ, p < countLimit → (place ≤ p ↔ k ≤ p)) (word : String) :
    placesFrom k word text =
      (· + 1) '' {n | place - 1 ≤ n ∧ OccursAt word.toList text.toList n} := by
  have hFew := Argument.length_lt_countLimit hSize
  have hMem (n : ℕ) : n + 1 ∈ placesFrom k word text ↔
      place - 1 ≤ n ∧ OccursAt word.toList text.toList n := by
    rw [placesFrom, Set.mem_ofPred_eq, ← takeMid_eq_iff, String.length_toList, String.length_toList,
      Nat.add_le_add_iff_right, Nat.sub_le_iff_le_add]
    rw [String.length_toList] at hFew
    exact and_congr_left fun hOccurs => (hCompare (n + 1) (by omega)).symm
  ext p
  constructor
  · intro hp
    have hPos : p ≠ 0 := by
      rintro rfl
      exact absurd (hOne.trans hp.1) (by decide)
    obtain ⟨n, rfl⟩ := Nat.exists_eq_succ_of_ne_zero hPos
    exact ⟨n, (hMem n).mp hp, rfl⟩
  · rintro ⟨n, hn, rfl⟩
    exact (hMem n).mpr hn

/-- A word is found at the least place from a start on at which it is the middle of the text, and at
zero when there is no such place. The length of a text and the middle of one are what the functions
for them give. The text is any that fits in memory. -/
theorem find_least_place (now : Instant) {text : String} (hSize : text.utf8ByteSize < 2 ^ 63)
    {start : Float} {k : WithBot (WithTop ℤ)} (hWhole : whole? start = some k) (hOne : 1 ≤ k)
    (word : String) :
    (∃ p : ℕ, found now word text start = .ok (.number (Number.ofInt p)) ∧
      (IsLeast (placesFrom k word text) p ∨ placesFrom k word text = ∅ ∧ p = 0)) ∧
    (∀ s : String, lengthOf now s = .ok (.number (Number.ofInt s.length))) ∧
    ∀ (p n : ℕ) (place count : Float), 1 ≤ p → whole? place = some p → whole? count = some n →
      middle now text place count = .ok (.text (String.ofList (takeMid p n text.toList))) := by
  refine ⟨?_, lengthOf_eq now, fun p n place count hPos hPlace hCount =>
    middle_eq now hSize hPlace hCount hPos⟩
  obtain ⟨place, hPlace, -, hCompare⟩ := Argument.exists_toPlace hWhole hOne
  have hPlaces := placesFrom_eq hSize hOne hCompare word
  refine ⟨findFrom word.toList text.toList place, ?_, ?_⟩
  · rw [found_eq now word text hWhole, hPlace]
    rfl
  · rw [hPlaces]
    rcases findFrom_cases word.toList text.toList place with ⟨n, hFound, hLeast⟩ | ⟨hFound, hNone⟩
    · rw [hFound]
      exact Or.inl (add_left_mono.map_isLeast hLeast)
    · refine Or.inr ⟨?_, hFound⟩
      rw [Set.image_eq_empty, Set.eq_empty_iff_forall_notMem]
      exact fun n hn => hNone n hn.1 hn.2

/-- The empty word is found behind the last character, and nothing is found from an infinite
start. -/
theorem find_least_place_behind_last :
    let text := "né😀"
    let start : Float := 4
    let endless := Float.ofBits 0x7FF0000000000000
    (text.utf8ByteSize < 2 ^ 63 ∧ whole? start = some ((4 : ℕ) : WithBot (WithTop ℤ)) ∧
      whole? endless = some ⊤ ∧ (1 : WithBot (WithTop ℤ)) ≤ (4 : ℕ) ∧
      (1 : WithBot (WithTop ℤ)) ≤ ⊤) ∧
    found .epoch "" text start = .ok (.number 4) ∧
    found .epoch "" text endless = .ok (.number 0) ∧
    lengthOf .epoch text = .ok (.number 3) ∧
    middle .epoch text 2 2 = .ok (.text "é😀") := by
  intro text start endless
  have hSize : text.utf8ByteSize < 2 ^ 63 := by decide
  have hNumber (n : ℕ) (hn : n ≤ 4) : whole? (Number.ofInt n) = some n :=
    (Number.holds_ofInt (hn.trans (by decide))).whole?_eq
  have hFour : whole? start = some ((4 : ℕ) : WithBot (WithTop ℤ)) := hNumber 4 le_rfl
  have hTwo : whole? 2 = some ((2 : ℕ) : WithBot (WithTop ℤ)) := hNumber 2 (by decide)
  have hEndless : whole? endless = some ⊤ := Number.whole?_infinity
  have hOne : (1 : WithBot (WithTop ℤ)) ≤ (4 : ℕ) := by decide
  obtain ⟨⟨p, hFound, hPlace⟩, hLength, hMiddle⟩ := find_least_place .epoch hSize hFour hOne ""
  obtain ⟨⟨q, hFoundNot, hNoPlace⟩, -, -⟩ := find_least_place .epoch hSize hEndless le_top ""
  have hp : p = 4 := by
    rcases hPlace with ⟨hMem, -⟩ | ⟨hEmpty, -⟩
    · have hLow : 4 ≤ p := by exact_mod_cast hMem.1
      have hHigh : p ≤ 4 := hMem.2.1.trans (by decide)
      omega
    · exact absurd hEmpty (Set.Nonempty.ne_empty ⟨4, le_rfl, by decide, by decide +kernel⟩)
  have hq : q = 0 := by
    rcases hNoPlace with ⟨hMem, -⟩ | ⟨-, hZero⟩
    · exact absurd hMem.1 (WithBot.coe_lt_coe.mpr (WithTop.coe_lt_top _)).not_ge
    · exact hZero
  subst hp hq
  refine ⟨⟨hSize, hFour, hEndless, hOne, le_top⟩, hFound.trans ?_, hFoundNot.trans ?_,
    (hLength text).trans ?_, (hMiddle 2 2 2 2 (by decide) hTwo hTwo).trans ?_⟩
  all_goals decide +kernel

end RowFormula.TextFunction
