import Circuitry.Proofs.Decimal.Literal

/-!
# Canonical decimals

    canonical := '-'? whole ('.' digit* nonzero)?
    whole     := '0' | nonzero digit*

Zero has no minus sign. A rendered value is canonical, and it is read back as what the value was rounded to.
Since a canonical decimal is determined by its value, values are rendered alike exactly where they round to the
same number.
-/

set_option autoImplicit false

namespace Circuitry.Decimal

/-! ### Canonical texts -/

/-- A zero, or digits that do not begin with a zero. -/
def IsWholePart (text : List Char) : Prop :=
  text = ['0'] ∨ (text ≠ [] ∧ (∀ c ∈ text, c.isDigit = true) ∧ text.head? ≠ some '0')

/-- Nothing, or a point and digits that do not end with a zero. -/
def IsFractionPart (text : List Char) : Prop :=
  text = [] ∨ ∃ digits, text = '.' :: digits ∧ digits ≠ [] ∧ (∀ c ∈ digits, c.isDigit = true) ∧
    digits.getLast? ≠ some '0'

/-- The texts of decimals without a superfluous character. -/
inductive Canonical : List Char → Prop
  | unsigned {whole fraction : List Char} (isWhole : IsWholePart whole) (isFraction : IsFractionPart fraction) :
      Canonical (whole ++ fraction)
  | negative {whole fraction : List Char} (isWhole : IsWholePart whole) (isFraction : IsFractionPart fraction)
      (notZero : whole ++ fraction ≠ ['0']) : Canonical ('-' :: (whole ++ fraction))

/-! ### Whole parts -/

theorem digitChar_eq_zero {digit : Nat} (h : digit < 10) (isZero : Nat.digitChar digit = '0') : digit = 0 := by
  have all : ∀ d < 10, Nat.digitChar d = '0' → d = 0 := by decide
  exact all digit h isZero

/-- The first digit of a number is that of its tenth, down to a single digit. -/
theorem head_toDigits {n : Nat} (positive : 0 < n) : (Nat.toDigits 10 n).head? ≠ some '0' := by
  induction n using Nat.strong_induction_on with
  | _ n ih =>
    by_cases single : n < 10
    · rw [Nat.toDigits_of_lt_base single]
      intro isZero
      exact positive.ne' (digitChar_eq_zero single (Option.some.inj isZero))
    · rw [Nat.toDigits_of_base_le (by decide) (by omega), List.head?_append_of_ne_nil _ Nat.toDigits_ne_nil]
      exact ih (n / 10) (by omega) (by omega)

theorem isWholePart_toDigits (n : Nat) : IsWholePart (Nat.toDigits 10 n) := by
  rcases Nat.eq_zero_or_pos n with rfl | positive
  · exact .inl rfl
  · exact .inr ⟨Nat.toDigits_ne_nil, isDigit_toDigits n, head_toDigits positive⟩

/-! ### Digits without trailing zeros -/

/-- Decimal digits that do not end with a zero. -/
structure Trimmed (digits : List Nat) : Prop where
  isDigits : IsDigits digits
  last : digits.getLast? ≠ some 0

theorem trimmed_dropTrailingZeros {digits : List Nat} (h : IsDigits digits) :
    Trimmed (dropTrailingZeros digits) where
  isDigits := h.dropTrailingZeros
  last := by
    intro isZero
    rw [dropTrailingZeros, List.getLast?_reverse] at isZero
    have first := List.head?_dropWhile_not (· = 0) digits.reverse
    simp [isZero] at first

theorem trimmed_roundedDigits {divisor : Nat} (positive : 0 < divisor) (numerator places : Nat) :
    Trimmed (roundedDigits numerator divisor places).2 := by
  have digits := longDivision_isDigits (Nat.mod_lt numerator positive) places
  simp only [roundedDigits]
  split
  · exact trimmed_dropTrailingZeros (increment_isDigits digits)
  · exact trimmed_dropTrailingZeros digits

namespace Trimmed

variable {digit : Nat} {digits : List Nat}

theorem tail (h : Trimmed (digit :: digits)) : Trimmed digits where
  isDigits := fun d member => h.isDigits d (by simp [member])
  last := by
    have last := h.last
    cases digits with
    | nil => simp
    | cons next rest => rwa [List.getLast?_cons_cons] at last

theorem isFractionPart (h : Trimmed digits) :
    IsFractionPart (if digits.isEmpty then [] else '.' :: digits.map Nat.digitChar) := by
  by_cases empty : digits = []
  · exact .inl (by simp [empty])
  · refine .inr ⟨digits.map Nat.digitChar, by simp [empty], by simpa using empty, isDigit_map_digitChar h.isDigits,
      fun isZero => ?_⟩
    rw [List.getLast?_map, Option.map_eq_some_iff] at isZero
    obtain ⟨digit, isLast, isZero⟩ := isZero
    have small := h.isDigits digit (List.mem_of_mem_getLast? isLast)
    exact h.last (digitChar_eq_zero small isZero ▸ isLast)

end Trimmed

/-! ### Digits by their value -/

theorem fractionValue_nonneg (digits : List Nat) : 0 ≤ fractionValue digits := by
  induction digits with
  | nil => exact le_rfl
  | cons digit rest ih =>
    rw [fractionValue]
    positivity

theorem fractionValue_lt_one {digits : List Nat} (h : IsDigits digits) : fractionValue digits < 1 := by
  induction digits with
  | nil => norm_num [fractionValue]
  | cons digit rest ih =>
    have tail := ih fun d member => h d (by simp [member])
    have head : (digit : Rat) ≤ 9 := by exact_mod_cast Nat.le_of_lt_succ (h digit (by simp))
    rw [fractionValue, div_lt_one (by norm_num)]
    linarith

/-- A number determines its whole part and the rest. -/
theorem parts_eq {first second : Nat} {f g : Rat} (fNonneg : 0 ≤ f) (fProper : f < 1) (gNonneg : 0 ≤ g)
    (gProper : g < 1) (same : first + f = second + g) : first = second ∧ f = g := by
  have wholes : first = second := by
    have below : (first : Rat) < second + 1 := by linarith
    have above : (second : Rat) < first + 1 := by linarith
    have below : first < second + 1 := by exact_mod_cast below
    have above : second < first + 1 := by exact_mod_cast above
    omega
  subst wholes
  exact ⟨rfl, add_left_cancel same⟩

/-- Digits denote zero only if they are all zeros. -/
theorem Trimmed.eq_nil {digits : List Nat} (h : Trimmed digits) (zero : fractionValue digits = 0) : digits = [] := by
  induction digits with
  | nil => rfl
  | cons digit rest ih =>
    have nonneg := fractionValue_nonneg rest
    have digitNonneg : (0 : Rat) ≤ digit := Nat.cast_nonneg digit
    rw [fractionValue] at zero
    have noDigit : (digit : Rat) = 0 := by linarith
    have noDigit : digit = 0 := by exact_mod_cast noDigit
    have noRest : rest = [] := ih h.tail (by linarith)
    exact absurd (by simp [noDigit, noRest]) h.last

/-- Digits that do not end with a zero are determined by the fraction they denote. -/
theorem Trimmed.eq_of_fractionValue_eq {first second : List Nat} (isFirst : Trimmed first)
    (isSecond : Trimmed second) (same : fractionValue first = fractionValue second) : first = second := by
  induction first generalizing second with
  | nil => exact (isSecond.eq_nil same.symm).symm
  | cons digit rest ih =>
    cases second with
    | nil => exact isFirst.eq_nil same
    | cons digit' rest' =>
      simp only [fractionValue] at same
      have sums : (digit : Rat) + fractionValue rest = digit' + fractionValue rest' := by linarith
      obtain ⟨digits, rests⟩ := parts_eq (fractionValue_nonneg rest) (fractionValue_lt_one isFirst.tail.isDigits)
        (fractionValue_nonneg rest') (fractionValue_lt_one isSecond.tail.isDigits) sums
      rw [digits, ih isFirst.tail isSecond.tail rests]

/-! ### Signs -/

/-- A whole part and the fraction behind it spell zero only if both are zero. -/
theorem unsignedText_eq_zero {whole : Nat} {digits : List Nat} (isZero : unsignedText whole digits = ['0']) :
    whole = 0 ∧ digits = [] := by
  have nonempty : 0 < (Nat.toDigits 10 whole).length := List.length_pos_of_ne_nil Nat.toDigits_ne_nil
  have short := congrArg List.length isZero
  have noDigits : digits = [] := by
    by_contra someDigits
    simp only [unsignedText, List.isEmpty_iff, if_neg someDigits, List.length_append, List.length_cons,
      List.length_nil] at short
    omega
  subst noDigits
  refine ⟨?_, rfl⟩
  rw [unsignedText, List.isEmpty_nil, if_pos rfl, List.append_nil] at isZero
  rw [← digitsValue_toDigits whole, isZero]
  rfl

theorem canonical_signedText {negative : Bool} {whole : Nat} {digits : List Nat} (trimmed : Trimmed digits)
    (notZero : negative = true → ¬(whole = 0 ∧ digits = [])) : Canonical (signedText negative whole digits) := by
  have isWhole := isWholePart_toDigits whole
  have isFraction := trimmed.isFractionPart
  cases negative with
  | false =>
    rw [signedText, if_neg Bool.false_ne_true, List.nil_append]
    exact .unsigned isWhole isFraction
  | true =>
    rw [signedText, if_pos rfl, List.singleton_append]
    exact .negative isWhole isFraction fun isZero => notZero rfl (unsignedText_eq_zero isZero)

section Rendered

variable (value : Rat) (places : Nat)

theorem showsSign_iff :
    showsSign value places = true ↔ value < 0 ∧
      ¬((roundedDigits value.num.natAbs value.den places).1 = 0 ∧
        (roundedDigits value.num.natAbs value.den places).2 = []) := by
  simp only [showsSign, Bool.and_eq_true, decide_eq_true_eq, Bool.not_eq_true', Bool.and_eq_false_iff,
    decide_eq_false_iff_not, List.isEmpty_eq_false_iff, not_and_or, ne_eq]

/-- A sign is shown for what is negative after rounding. -/
theorem showsSign_iff_nearest_neg : showsSign value places = true ↔ nearest value places < 0 := by
  have trimmed := trimmed_roundedDigits value.den_pos value.num.natAbs places
  have shown := showsSign_iff value places
  rw [nearest_eq]
  generalize roundedDigits value.num.natAbs value.den places = rounded at trimmed shown ⊢
  have fraction := fractionValue_nonneg rounded.2
  have whole : (0 : Rat) ≤ rounded.1 := Nat.cast_nonneg _
  cases shows : showsSign value places with
  | false =>
    simp only [Bool.false_eq_true, if_false, false_iff, not_lt]
    positivity
  | true =>
    simp only [if_true, true_iff, Left.neg_neg_iff]
    refine lt_of_le_of_ne (by positivity) fun isZero => (shown.1 shows).2 ⟨?_, trimmed.eq_nil (by linarith)⟩
    have noWhole : (rounded.1 : Rat) = 0 := by linarith
    exact_mod_cast noWhole

/-- Rounding leaves exactly the multiples of the last place as they are. -/
theorem nearest_eq_self_iff : nearest value places = value ↔ ∃ steps : Int, value * 10 ^ places = steps := by
  have positive : (0 : Rat) < 10 ^ places := by positivity
  have halfway (steps : Int) : ⌊(steps : Rat) + 1 / 2⌋ = steps := by
    rw [Int.floor_intCast_add]
    norm_num
  constructor
  · intro same
    exact ⟨_, by rw [← same, nearest, div_mul_cancel₀ _ positive.ne']⟩
  · rintro ⟨steps, onStep⟩
    rw [nearest, div_eq_iff positive.ne', onStep, Int.cast_inj]
    by_cases negative : value < 0
    · rw [if_pos negative, abs_of_neg negative, neg_mul, onStep, ← Int.cast_neg, halfway, neg_neg]
    · rw [if_neg negative, abs_of_nonneg (le_of_not_gt negative), onStep, halfway]

/-- A rendered value has no superfluous character. -/
theorem canonical_render : Canonical (render value places).toList := by
  rw [toList_render]
  exact canonical_signedText (trimmed_roundedDigits value.den_pos value.num.natAbs places)
    fun shown => ((showsSign_iff value places).1 shown).2

/-- What a value is rounded to determines its text. -/
theorem render_eq_of_nearest_eq {value other : Rat} {places : Nat}
    (same : nearest value places = nearest other places) : render value places = render other places := by
  have signs : showsSign value places = showsSign other places := by
    rw [Bool.eq_iff_iff, showsSign_iff_nearest_neg, showsSign_iff_nearest_neg, same]
  have trimmed := trimmed_roundedDigits value.den_pos value.num.natAbs places
  have trimmed' := trimmed_roundedDigits other.den_pos other.num.natAbs places
  have parts := nearest_eq value places
  rw [same, nearest_eq, ← signs] at parts
  apply String.toList_injective
  rw [toList_render, toList_render, signs]
  generalize roundedDigits value.num.natAbs value.den places = rounded at trimmed parts ⊢
  generalize roundedDigits other.num.natAbs other.den places = rounded' at trimmed' parts ⊢
  have magnitudes : (rounded.1 : Rat) + fractionValue rounded.2 = rounded'.1 + fractionValue rounded'.2 := by
    cases shown : showsSign value places with
    | false => simpa [shown] using parts.symm
    | true =>
      rw [shown, if_pos rfl, if_pos rfl, neg_inj] at parts
      exact parts.symm
  obtain ⟨wholes, fractions⟩ := parts_eq (fractionValue_nonneg rounded.2)
    (fractionValue_lt_one trimmed.isDigits) (fractionValue_nonneg rounded'.2)
    (fractionValue_lt_one trimmed'.isDigits) magnitudes
  rw [wholes, trimmed.eq_of_fractionValue_eq trimmed' fractions]

end Rendered

/-- A rendered value is read back as what it was rounded to, which is the value itself exactly where the places
suffice for it. Its text is canonical, and it is that of another value exactly where both round to one number. -/
theorem render_canonical (value : Rat) {places : Nat} (bounded : places < 2 ^ 31) :
    parse? (render value places) = some (nearest value places) ∧
      (nearest value places = value ↔ ∃ steps : Int, value * 10 ^ places = steps) ∧
      Canonical (render value places).toList ∧
      ∀ other, render value places = render other places ↔ nearest value places = nearest other places := by
  have read := parse?_render value bounded
  refine ⟨read, nearest_eq_self_iff value places, canonical_render value places, fun other => ⟨fun same => ?_,
    render_eq_of_nearest_eq⟩⟩
  rw [same, parse?_render other bounded] at read
  exact (Option.some.inj read).symm

/-- The carry of a rounding runs into the whole part and leaves no digits. -/
theorem render_canonical_carry :
    2 < 2 ^ 31 ∧ render (-249 / 250) 2 = "-1" ∧ nearest (-249 / 250) 2 = -1 ∧
      parse? (render (-249 / 250) 2) = some (nearest (-249 / 250) 2) ∧
      (nearest (-249 / 250) 2 = -249 / 250 ↔ ∃ steps : Int, (-249 / 250 : Rat) * 10 ^ 2 = steps) ∧
      Canonical (render (-249 / 250) 2).toList ∧
      ∀ other, render (-249 / 250) 2 = render other 2 ↔ nearest (-249 / 250) 2 = nearest other 2 :=
  ⟨by decide, by decide +kernel, by decide +kernel, render_canonical (-249 / 250) (by decide)⟩

end Circuitry.Decimal
