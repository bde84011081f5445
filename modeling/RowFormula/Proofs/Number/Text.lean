import RowFormula.Number.Text

/-! The characters of written numbers. There always are some. A finite number is written with
digits, signs, a point and the letter of an exponent, and in JSON a point or an exponent is never
missing. -/
namespace RowFormula.Number

/-- The characters that the decimal text of a finite number can have. -/
def isNumeral (c : Char) : Bool := c.isDigit || c = '-' || c = '+' || c = '.' || c = 'e'

/-- No other characters. -/
def Numeral (cs : List Char) : Prop := ∀ c ∈ cs, isNumeral c = true

instance (cs : List Char) : Decidable (Numeral cs) := List.decidableBAll _ cs

namespace Numeral

variable {cs others : List Char}

/-- Numeral characters behind others are numeral. -/
theorem append (h : Numeral cs) (h' : Numeral others) : Numeral (cs ++ others) :=
  List.forall_mem_append.mpr ⟨h, h'⟩

theorem cons {c : Char} (hc : isNumeral c = true) (h : Numeral cs) : Numeral (c :: cs) :=
  List.forall_mem_cons.mpr ⟨hc, h⟩

theorem zeros (n : Nat) : Numeral (List.replicate n '0') := by
  intro c hMem
  rw [List.eq_of_mem_replicate hMem]
  rfl

theorem digitChars (n : Nat) : Numeral (Number.digitChars n) := by
  intro c hMem
  have hDigit : c.isDigit = true := Nat.isDigit_of_mem_toDigits (by decide) (by decide) hMem
  simp [isNumeral, hDigit]

theorem paddedInt (width : Nat) (n : Int) : Numeral (Number.paddedInt width n) := by
  unfold Number.paddedInt
  split
  · exact cons rfl ((zeros _).append (digitChars _))
  · exact (zeros _).append (digitChars _)

/-- A number written with all its places is numeral. -/
theorem positionalChars {suffix : List Char} (hSuffix : Numeral suffix) (d : Decimal) :
    Numeral (Number.positionalChars suffix d) := by
  unfold Number.positionalChars
  dsimp only
  split
  · exact ((digitChars _).append (zeros _)).append hSuffix
  · have hShifted := (zeros ((-d.exponent).toNat + 1 - (Number.digitChars d.digits).length)).append
      (digitChars d.digits)
    exact append (fun c hMem => hShifted c (List.mem_of_mem_take hMem))
      (cons rfl fun c hMem => hShifted c (List.mem_of_mem_drop hMem))

/-- A number written with an exponent is numeral. -/
theorem exponentChars {mark : List Char} (hMark : Numeral mark) (d : Decimal) :
    Numeral (Number.exponentChars mark d) := by
  have hDigits := digitChars d.digits
  unfold Number.exponentChars
  dsimp only
  apply append
  · split
    · exact List.forall_mem_nil _
    · rename_i hOne
      exact hOne ▸ hDigits
    · rename_i first rest _ hSome
      rw [hSome] at hDigits
      obtain ⟨hFirst, hRest⟩ := List.forall_mem_cons.mp hDigits
      exact cons hFirst (cons rfl hRest)
  · split
    · exact cons rfl (cons rfl (digitChars _))
    · exact hMark.append (digitChars _)

end Numeral

/-- A number that is written without exponent has a point if whole numbers do. -/
theorem point_mem_positionalChars {suffix : List Char} (hSuffix : '.' ∈ suffix) (d : Decimal) :
    '.' ∈ positionalChars suffix d := by
  unfold positionalChars
  dsimp only
  split
  · exact List.mem_append_right _ hSuffix
  · exact List.mem_append_right _ List.mem_cons_self

/-- The letter of the exponent is written. -/
theorem exponent_mem_exponentChars {mark : List Char} (hMark : 'e' ∈ mark) (d : Decimal) :
    'e' ∈ exponentChars mark d := by
  unfold exponentChars
  dsimp only
  apply List.mem_append_right
  split
  · exact List.mem_cons_self
  · exact List.mem_append_left _ hMark

/-- The characters of numbers, a point or the letter of an exponent among them. -/
def Marked (cs : List Char) : Prop := Numeral cs ∧ ('.' ∈ cs ∨ 'e' ∈ cs)

/-- A finite number in JSON is not taken for an integer. -/
theorem json_write_of_isFinite {x : Float} (h : isFinite x = true) :
    Marked (json.write x).toList := by
  unfold isFinite at h
  split at h
  case h_2 => cases h
  case h_1 negative mantissa exponent hExact =>
    have hSuffix : Numeral json.wholeSuffix.toList := by decide
    have hMark : Numeral json.exponentMark.toList := by decide
    have hChars (d : Decimal) : Marked (if mantissa = 0 ∨ json.positional d.magnitude then
        positionalChars json.wholeSuffix.toList d
        else exponentChars json.exponentMark.toList d) := by
      split
      · exact ⟨hSuffix.positionalChars d, Or.inl (point_mem_positionalChars (by decide) d)⟩
      · exact ⟨hMark.exponentChars d, Or.inr (exponent_mem_exponentChars (by decide) d)⟩
    simp only [Layout.write, hExact, String.toList_ofList]
    split
    · exact ⟨(hChars _).1.cons rfl,
        (hChars _).2.imp (List.mem_cons_of_mem _) (List.mem_cons_of_mem _)⟩
    · exact hChars _

theorem digitChars_ne_nil (n : Nat) : digitChars n ≠ [] :=
  List.ne_nil_of_length_pos (Nat.length_toDigits_pos)

theorem paddedInt_ne_nil (width : Nat) (n : Int) : paddedInt width n ≠ [] := by
  unfold paddedInt
  split
  · exact List.cons_ne_nil _ _
  · exact List.append_ne_nil_of_right_ne_nil _ (digitChars_ne_nil _)

theorem positionalChars_ne_nil (suffix : List Char) (d : Decimal) :
    positionalChars suffix d ≠ [] := by
  unfold positionalChars
  dsimp only
  split
  · rw [List.append_assoc]
    exact List.append_ne_nil_of_left_ne_nil (digitChars_ne_nil _) _
  · simp

/-- The minus sign, if there is one. -/
def signChars (negative : Bool) : List Char := if negative then ['-'] else []

/-- A finite number is stored with its sign and without exponent. -/
theorem plain_write_of_finite {x : Float} {negative : Bool} {mantissa : Nat} {exponent : Int}
    (hExact : exact x = .finite negative mantissa exponent) :
    (plain.write x).toList = signChars negative ++
      positionalChars [] (if mantissa = 0 then ⟨0, 0⟩ else shortest .up mantissa exponent) := by
  have hPlain (n : Int) : plain.positional n = true := rfl
  simp only [Layout.write, hExact, String.toList_ofList, hPlain, or_true, if_true]
  cases negative <;> rfl

/-- A number is never written as nothing. -/
theorem text_ne_empty (x : Float) : text x ≠ "" := by
  unfold text
  cases hExact : exact x with
  | nan => exact ne_of_beq_false rfl
  | infinite negative => cases negative <;> exact ne_of_beq_false rfl
  | finite negative mantissa exponent =>
      dsimp only
      split
      · simpa [intText, ← String.toList_inj] using paddedInt_ne_nil 0 _
      · rw [Ne, ← String.toList_inj, plain_write_of_finite hExact]
        exact List.append_ne_nil_of_right_ne_nil _ (positionalChars_ne_nil _ _)

end RowFormula.Number
