import Circuitry.Proofs.Decimal.Grammar
import Circuitry.Proofs.Decimal.Rounding
import Circuitry.Proofs.Text.Blank

/-!
# Reading rendered decimals

A rendered value is a literal, and its value as a literal is the value that rendering rounded to.
-/

set_option autoImplicit false

namespace Circuitry.Decimal

/-! ### Texts of decimals -/

/-- The digits of a decimal without its sign. -/
def unsignedText (whole : Nat) (digits : List Nat) : List Char :=
  Nat.toDigits 10 whole ++ if digits.isEmpty then [] else '.' :: digits.map Nat.digitChar

/-- A decimal with its sign. -/
def signedText (negative : Bool) (whole : Nat) (digits : List Nat) : List Char :=
  (if negative then ['-'] else []) ++ unsignedText whole digits

/-- Whether a value is rendered with a sign, which a value that rounds to zero is not. -/
def showsSign (value : Rat) (places : Nat) : Bool :=
  value < 0 && !((roundedDigits value.num.natAbs value.den places).1 = 0 &&
    (roundedDigits value.num.natAbs value.den places).2.isEmpty)

theorem render_eq (value : Rat) (places : Nat) :
    render value places =
      (if showsSign value places then "-" else "") ++
        natText (roundedDigits value.num.natAbs value.den places).1 ++
        if (roundedDigits value.num.natAbs value.den places).2.isEmpty then ""
        else "." ++
          String.ofList ((roundedDigits value.num.natAbs value.den places).2.map Nat.digitChar) := rfl

theorem toList_render (value : Rat) (places : Nat) :
    (render value places).toList =
      signedText (showsSign value places) (roundedDigits value.num.natAbs value.den places).1
        (roundedDigits value.num.natAbs value.den places).2 := by
  rw [render_eq, signedText, unsignedText, natText, String.toList_append, String.toList_append,
    String.toList_ofList, List.append_assoc]
  congr 1
  · cases showsSign value places <;> rfl
  · congr 1
    split <;> simp

theorem isDigit_digitChar {digit : Nat} (h : digit < 10) : (Nat.digitChar digit).isDigit = true := by
  have all : ∀ d < 10, (Nat.digitChar d).isDigit = true := by decide
  exact all digit h

theorem isDigit_map_digitChar {digits : List Nat} (h : IsDigits digits) :
    ∀ c ∈ digits.map Nat.digitChar, c.isDigit = true := by
  intro c member
  obtain ⟨digit, inDigits, rfl⟩ := List.mem_map.1 member
  exact isDigit_digitChar (h digit inDigits)

/-! ### Values -/

theorem digitsValue_cons_digitChar {digit : Nat} (h : digit < 10) (rest : List Char) :
    digitsValue (Nat.digitChar digit :: rest) = 10 ^ rest.length * digit + digitsValue rest := by
  simp only [digitsValue_eq_ofDigitChars]
  rw [Nat.ofDigitChars_cons_digitChar_of_lt_ten h, Nat.ofDigitChars_eq_ofDigitChars_zero]
  simp

/-- The digits behind the point, read as an integer, count steps of the last place. -/
theorem digitsValue_map_digitChar {digits : List Nat} (h : IsDigits digits) :
    (digitsValue (digits.map Nat.digitChar) : Rat) = fractionValue digits * 10 ^ digits.length := by
  induction digits with
  | nil => simp [digitsValue, fractionValue]
  | cons digit rest ih =>
    have tail := ih fun d member => h d (by simp [member])
    rw [List.map_cons, digitsValue_cons_digitChar (h digit (by simp))]
    push_cast
    rw [tail, List.length_map, fractionValue, List.length_cons, pow_succ]
    field_simp

/-! ### Decimals as literals -/

/-- A decimal as a literal, which has a point only if digits follow it. -/
def rendered (negative : Bool) (whole : Nat) {digits : List Nat} (h : IsDigits digits) : Literal where
  sign := if negative then .minus else .absent
  mantissa :=
    { whole := Nat.toDigits 10 whole
      fraction := if digits.isEmpty then none else some (digits.map Nat.digitChar)
      isDigit := by
        refine List.forall_mem_append.2 ⟨isDigit_toDigits whole, ?_⟩
        cases digits with
        | nil => simp
        | cons digit rest => exact isDigit_map_digitChar h
      nonempty := by simp [Nat.toDigits_ne_nil] }
  exponent := none

section Rendered

variable (negative : Bool) (whole : Nat) {digits : List Nat} (h : IsDigits digits)

theorem spelling_rendered : (rendered negative whole h).spelling = signedText negative whole digits := by
  cases negative <;> cases digits <;>
    simp [Literal.spelling, Mantissa.spelling, Mantissa.pointed, rendered, signedText, unsignedText,
      UnitExpression.Sign.spelling]

theorem places_rendered : (rendered negative whole h).mantissa.places = digits.map Nat.digitChar := by
  cases digits <;> rfl

theorem value_rendered :
    (rendered negative whole h).value =
      if negative then -(whole + fractionValue digits) else whole + fractionValue digits := by
  have shifted : ((digitsValue (rendered negative whole h).mantissa.digits : Nat) : Rat) *
      10 ^ (rendered negative whole h).lastPlace = whole + fractionValue digits := by
    rw [Mantissa.digits, Literal.lastPlace, places_rendered]
    change ((digitsValue (Nat.toDigits 10 whole ++ digits.map Nat.digitChar) : Nat) : Rat) *
      10 ^ ((0 : Int) - (digits.map Nat.digitChar).length) = _
    simp only [digitsValue_append, digitsValue_toDigits, List.length_map]
    push_cast
    rw [digitsValue_map_digitChar h, zero_sub, zpow_neg, zpow_natCast]
    field_simp
  rw [← shifted, Literal.value]
  cases negative <;> simp [rendered, UnitExpression.Sign.apply]

end Rendered

theorem isBlank_of_isUnsignedChar {c : Char} (h : IsUnsignedChar c) : Text.isBlank c = false := by
  rcases h with digit | rfl
  · exact Text.isBlank_of_isDigit digit
  · decide

/-- A decimal has a sign at most, and then digits and a point at most. -/
theorem signedText_chars (negative : Bool) (whole : Nat) {digits : List Nat} (h : IsDigits digits) :
    ∀ c ∈ signedText negative whole digits, c = '-' ∨ IsUnsignedChar c := by
  intro c member
  rw [← spelling_rendered negative whole h] at member
  rcases List.mem_append.1 member with inSign | inRest
  · left
    cases negative
    · cases inSign
    · exact List.mem_singleton.1 inSign
  · right
    simp only [rendered, Option.map_none, Option.getD_none, List.append_nil] at inRest
    exact Mantissa.isUnsignedChar _ c inRest

theorem signedText_not_blank (negative : Bool) (whole : Nat) {digits : List Nat} (h : IsDigits digits) :
    ∀ c ∈ signedText negative whole digits, Text.isBlank c = false := by
  intro c member
  rcases signedText_chars negative whole h c member with rfl | unsigned
  · decide
  · exact isBlank_of_isUnsignedChar unsigned

theorem signedText_no_underscore (negative : Bool) (whole : Nat) {digits : List Nat} (h : IsDigits digits) :
    ∀ c ∈ signedText negative whole digits, c ≠ '_' := by
  intro c member
  rcases signedText_chars negative whole h c member with rfl | digit | rfl
  · decide
  · rintro rfl
    revert digit
    decide
  · decide

theorem filter_signedText (negative : Bool) (whole : Nat) {digits : List Nat} (h : IsDigits digits) :
    (signedText negative whole digits).filter (· ≠ '_') = signedText negative whole digits := by
  refine List.filter_eq_self.2 fun c member => ?_
  simpa using signedText_no_underscore negative whole h c member

theorem signedText_ne_nil (negative : Bool) (whole : Nat) {digits : List Nat} (h : IsDigits digits) :
    signedText negative whole digits ≠ [] := by
  rw [← spelling_rendered negative whole h]
  exact Literal.spelling_ne_nil _

/-- Everything in a decimal counts. -/
theorem bare_signedText (negative : Bool) (whole : Nat) {digits : List Nat} (h : IsDigits digits) :
    bare (signedText negative whole digits) = signedText negative whole digits := by
  have notBlank := signedText_not_blank negative whole h
  have trimmed : Text.trim (signedText negative whole digits) = signedText negative whole digits :=
    Text.trim_eq_self (fun c first => notBlank c (List.mem_of_mem_head? first))
      (fun c last => notBlank c (List.mem_of_mem_getLast? last))
  rw [bare, trimmed, filter_signedText negative whole h]

/-! ### Round trips -/

theorem signedText_parse (negative : Bool) (whole : Nat) {digits : List Nat} (h : IsDigits digits)
    (short : digits.length < 2 ^ 31) :
    parse? (String.ofList (signedText negative whole digits)) =
      some (if negative then -(whole + fractionValue digits) else whole + fractionValue digits) := by
  refine parse?_eq_some_iff.2 ⟨rendered negative whole h, ?_, ?_, value_rendered negative whole h⟩
  · rw [String.toList_ofList, bare_signedText negative whole h, spelling_rendered]
  · have places : (rendered negative whole h).mantissa.places.length = digits.length := by
      rw [places_rendered, List.length_map]
    have place : (rendered negative whole h).lastPlace = 0 - (digits.length : Int) := by
      rw [← places]
      rfl
    exact ⟨by omega, by omega⟩

/-- The digits of a rendered value and the sign it shows denote what the value was rounded to. -/
theorem nearest_eq (value : Rat) (places : Nat) :
    nearest value places =
      if showsSign value places then
        -((roundedDigits value.num.natAbs value.den places).1 +
          fractionValue (roundedDigits value.num.natAbs value.den places).2)
      else
        (roundedDigits value.num.natAbs value.den places).1 +
          fractionValue (roundedDigits value.num.natAbs value.den places).2 := by
  rw [roundedDigits_abs, nearest]
  by_cases negative : value < 0
  · cases shown : showsSign value places with
    | true => simp [negative, neg_div]
    | false =>
      -- Only a value that rounds to zero hides its sign.
      have magnitude := roundedDigits_abs value places
      simp only [showsSign, negative, decide_true, Bool.true_and, Bool.not_eq_false', Bool.and_eq_true,
        decide_eq_true_eq, List.isEmpty_iff] at shown
      rw [shown.1, shown.2] at magnitude
      simp only [Nat.cast_zero, fractionValue, add_zero] at magnitude
      rw [if_neg Bool.false_ne_true, if_pos negative, Int.cast_neg, neg_div, ← magnitude, neg_zero]
  · have hidden : showsSign value places = false := by simp [showsSign, negative]
    simp [hidden, negative]

/-- A rendered value is read back as what it was rounded to, if its places fit 32 bits. -/
theorem parse?_render (value : Rat) {places : Nat} (bounded : places < 2 ^ 31) :
    parse? (render value places) = some (nearest value places) := by
  have digits := roundedDigits_isDigits value.den_pos value.num.natAbs places
  have short := roundedDigits_length_le value.den value.num.natAbs places
  have read := signedText_parse (showsSign value places)
    (roundedDigits value.num.natAbs value.den places).1 digits (by omega)
  rwa [← toList_render, String.ofList_toList, ← nearest_eq] at read

end Circuitry.Decimal
