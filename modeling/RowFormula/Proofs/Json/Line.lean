import RowFormula.Proofs.Json.Lexeme

/-! Written JSON has no control characters. So it stays on one line, however many lines the strings
in it have. -/
namespace RowFormula.Json

open Number (isNumeral Numeral)

/-- No control characters. -/
def Plain (cs : List Char) : Prop := ∀ c ∈ cs, 0x20 ≤ c.toNat

instance (cs : List Char) : Decidable (Plain cs) := List.decidableBAll _ cs

namespace Plain

variable {cs others : List Char}

theorem append (h : Plain cs) (h' : Plain others) : Plain (cs ++ others) :=
  List.forall_mem_append.mpr ⟨h, h'⟩

theorem cons {c : Char} (hc : 0x20 ≤ c.toNat) (h : Plain cs) : Plain (c :: cs) :=
  List.forall_mem_cons.mpr ⟨hc, h⟩

/-- Plain texts are plain with commas between them. -/
theorem separated {texts : List (List Char)} (h : ∀ text ∈ texts, Plain text) :
    Plain (Json.separated texts) := by
  induction texts with
  | nil => exact List.forall_mem_nil _
  | cons text texts ih =>
      have hText := h text List.mem_cons_self
      have hTexts := ih fun other hOther => h other (List.mem_cons_of_mem _ hOther)
      cases texts with
      | nil => simpa [Json.separated] using hText
      | cons other texts =>
          rw [Json.separated, List.intercalate_cons_cons]
          exact (hText.append (List.forall_mem_singleton.mpr (by decide))).append hTexts

theorem of_numeral (h : Numeral cs) : Plain cs := by
  intro c hMem
  have hc := h c hMem
  simp only [isNumeral, Bool.or_eq_true, decide_eq_true_eq] at hc
  rcases hc with (((hDigit | rfl) | rfl) | rfl) | rfl
  · simp only [Char.isDigit, Bool.and_eq_true, decide_eq_true_eq] at hDigit
    have hZero : '0'.toNat ≤ c.toNat := hDigit.1
    exact Nat.le_trans (by decide) hZero
  all_goals decide

/-- A character is escaped with plain ones. -/
theorem escapeChar (c : Char) : Plain (Json.escapeChar c) := by
  have hDigits : ∀ n < 0x20, Plain (controlDigits n) := by decide
  rcases escapeChar_cases c with
    ⟨letter, hEscape, -, hLetter, -⟩ | ⟨hControl, hEscape⟩ | ⟨-, -, hPlain, hEscape⟩
  · rw [hEscape]
    exact .cons (by decide) (.cons hLetter (List.forall_mem_nil _))
  · rw [hEscape]
    exact .cons (by decide) (.cons (by decide) (hDigits _ hControl))
  · rw [hEscape]
    exact .cons hPlain (List.forall_mem_nil _)

/-- A written string has plain characters alone. -/
theorem stringChars (s : String) : Plain (Json.stringChars s) := by
  refine .append (.cons (by decide) fun c hMem => ?_) (List.forall_mem_singleton.mpr (by decide))
  obtain ⟨written, -, hc⟩ := List.mem_flatMap.mp hMem
  exact escapeChar written c hc

theorem numberChars (n : JsonNumber) : Plain (Json.numberChars n) := by
  cases n with
  | integer n => exact of_numeral (Numeral.paddedInt 0 n)
  | double x =>
      cases hExact : Number.exact x with
      | finite =>
          have hFinite : Number.isFinite x = true := by rw [Number.isFinite, hExact]
          exact of_numeral (Number.json_write_of_isFinite hFinite).1
      | nan =>
          rw [Json.numberChars, Number.Layout.write, hExact]
          decide
      | infinite negative =>
          rw [Json.numberChars, Number.Layout.write, hExact]
          cases negative <;> decide

end Plain

mutual

/-- The compact text of any value has no control characters. -/
theorem chars_plain : ∀ j : Json, Plain j.chars
  | .null | .unreadable => by decide
  | .bool b => by cases b <;> decide
  | .number n => .numberChars n
  | .string s => .stringChars s
  | .array items =>
    ((Plain.separated (itemTexts_plain items)).cons (by decide)).append (by decide)
  | .object members =>
    ((Plain.separated (memberTexts_plain members)).cons (by decide)).append (by decide)

theorem itemTexts_plain : ∀ items : List Json, ∀ text ∈ itemTexts items, Plain text
  | [] => List.forall_mem_nil _
  | item :: items => List.forall_mem_cons.mpr ⟨item.chars_plain, itemTexts_plain items⟩

theorem memberTexts_plain :
    ∀ members : List (String × Json), ∀ text ∈ memberTexts members, Plain text
  | [] => List.forall_mem_nil _
  | (name, value) :: members =>
    List.forall_mem_cons.mpr
      ⟨(Plain.stringChars name).append (value.chars_plain.cons (by decide)),
        memberTexts_plain members⟩

end

end RowFormula.Json
