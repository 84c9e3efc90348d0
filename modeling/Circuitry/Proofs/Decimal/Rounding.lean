import Circuitry.Decimal.Rendering
import Mathlib.Data.List.TakeWhile
import Mathlib.Data.Rat.Floor
import Mathlib.Tactic.FieldSimp
import Mathlib.Tactic.Linarith
import Mathlib.Tactic.Positivity
import Mathlib.Tactic.Ring

/-!
# Rounding to decimal places

Long division, the carry of an increment and the zeros left out at the end are digit work. Together they
round to the nearest multiple of the last place, a half away from zero.
-/

set_option autoImplicit false

namespace Circuitry.Decimal

/-- The multiple of `10 ^ -places` nearest to a value, and of two equally near the one further from zero. -/
def nearest (value : Rat) (places : Nat) : Rat :=
  let steps := ⌊|value| * 10 ^ places + 1 / 2⌋
  (if value < 0 then -steps else steps : Int) / 10 ^ places

/-! ### Fractions by their digits -/

/-- The value of digits behind the point. -/
def fractionValue : List Nat → Rat
  | [] => 0
  | digit :: rest => (digit + fractionValue rest) / 10

/-- A list of decimal digits. -/
def IsDigits (digits : List Nat) : Prop := ∀ digit ∈ digits, digit < 10

/-- Digits behind the point are a multiple of the last place. -/
theorem exists_fractionValue_eq (digits : List Nat) :
    ∃ steps : Nat, fractionValue digits * 10 ^ digits.length = steps := by
  induction digits with
  | nil => exact ⟨0, by simp [fractionValue]⟩
  | cons digit rest ih =>
    obtain ⟨steps, same⟩ := ih
    refine ⟨digit * 10 ^ rest.length + steps, ?_⟩
    push_cast
    rw [← same]
    simp only [fractionValue, List.length_cons, pow_succ]
    field_simp

theorem fractionValue_append_zeros (digits : List Nat) {zeros : List Nat} (h : ∀ d ∈ zeros, d = 0) :
    fractionValue (digits ++ zeros) = fractionValue digits := by
  induction digits with
  | nil =>
    induction zeros with
    | nil => rfl
    | cons first zeros ih =>
      have head : first = 0 := h first (by simp)
      have rest := ih fun d member => h d (by simp [member])
      simp only [List.nil_append] at rest
      simp [fractionValue, head, rest]
  | cons digit rest ih => simp [fractionValue, ih]

theorem fractionValue_dropTrailingZeros (digits : List Nat) :
    fractionValue (dropTrailingZeros digits) = fractionValue digits := by
  have split : digits =
      dropTrailingZeros digits ++ (digits.reverse.takeWhile (· = 0)).reverse := by
    rw [dropTrailingZeros, ← List.reverse_append, List.takeWhile_append_dropWhile, List.reverse_reverse]
  have zeros : ∀ d ∈ (digits.reverse.takeWhile (· = 0)).reverse, d = 0 := by
    intro d member
    have := List.mem_takeWhile_imp (List.mem_reverse.1 member)
    simpa using this
  conv_rhs => rw [split]
  exact (fractionValue_append_zeros _ zeros).symm

theorem IsDigits.dropTrailingZeros {digits : List Nat} (h : IsDigits digits) :
    IsDigits (dropTrailingZeros digits) := by
  intro d member
  have inReverse := (List.dropWhile_sublist _).subset (List.mem_reverse.1 member)
  exact h d (List.mem_reverse.1 inReverse)

theorem length_dropTrailingZeros_le (digits : List Nat) : (dropTrailingZeros digits).length ≤ digits.length := by
  have shorter := (List.dropWhile_sublist (· = 0) (l := digits.reverse)).length_le
  simpa [dropTrailingZeros] using shorter

/-! ### Long division -/

/-- The digits of a long division and what is left after them make up the quotient. -/
theorem longDivision_value {divisor : Nat} (positive : 0 < divisor) (places remainder : Nat) :
    (remainder : Rat) / divisor =
      fractionValue (longDivision divisor places remainder).1 +
        (longDivision divisor places remainder).2 / (divisor * 10 ^ places) := by
  have nonzero : (divisor : Rat) ≠ 0 := by positivity
  induction places generalizing remainder with
  | zero => simp [longDivision, fractionValue]
  | succ places ih =>
    by_cases zero : remainder = 0
    · simp [longDivision, zero, fractionValue]
    · have step := ih (10 * remainder % divisor)
      have division : (10 * remainder : Rat) =
          divisor * (10 * remainder / divisor : Nat) + (10 * remainder % divisor : Nat) := by
        exact_mod_cast (Nat.div_add_mod (10 * remainder) divisor).symm
      simp only [longDivision, if_neg zero, fractionValue]
      generalize longDivision divisor places (10 * remainder % divisor) = result at step ⊢
      generalize (10 * remainder / divisor : Nat) = digit at division ⊢
      generalize (10 * remainder % divisor : Nat) = next at division step
      calc (remainder : Rat) / divisor = (10 * remainder : Rat) / divisor / 10 := by field_simp
        _ = (digit + next / divisor) / 10 := by
          rw [division]
          field_simp
        _ = (digit + fractionValue result.1) / 10 + result.2 / (divisor * 10 ^ (places + 1)) := by
          rw [step, pow_succ]
          field_simp
          ring

theorem longDivision_isDigits {divisor remainder : Nat} (proper : remainder < divisor) (places : Nat) :
    IsDigits (longDivision divisor places remainder).1 := by
  induction places generalizing remainder with
  | zero => simp [longDivision, IsDigits]
  | succ places ih =>
    by_cases zero : remainder = 0
    · simp [longDivision, zero, IsDigits]
    · have digit : 10 * remainder / divisor < 10 := by
        rw [Nat.div_lt_iff_lt_mul (by omega)]
        omega
      have rest := ih (Nat.mod_lt (10 * remainder) (by omega : 0 < divisor))
      simp only [longDivision, if_neg zero]
      exact List.forall_mem_cons.2 ⟨digit, rest⟩

theorem longDivision_left_lt {divisor remainder : Nat} (proper : remainder < divisor) (places : Nat) :
    (longDivision divisor places remainder).2 < divisor := by
  induction places generalizing remainder with
  | zero => simpa [longDivision] using proper
  | succ places ih =>
    by_cases zero : remainder = 0
    · simp only [longDivision, if_pos zero]
      omega
    · simp only [longDivision, if_neg zero]
      exact ih (Nat.mod_lt (10 * remainder) (by omega : 0 < divisor))

theorem longDivision_length_le (divisor places remainder : Nat) :
    (longDivision divisor places remainder).1.length ≤ places := by
  induction places generalizing remainder with
  | zero => simp [longDivision]
  | succ places ih =>
    by_cases zero : remainder = 0
    · simp [longDivision, zero]
    · simpa [longDivision, zero] using ih (10 * remainder % divisor)

/-- A division that leaves something has been carried to the last place. -/
theorem longDivision_length {divisor places remainder : Nat}
    (leaves : (longDivision divisor places remainder).2 ≠ 0) :
    (longDivision divisor places remainder).1.length = places := by
  induction places generalizing remainder with
  | zero => rfl
  | succ places ih =>
    by_cases zero : remainder = 0
    · simp [longDivision, zero] at leaves
    · simp only [longDivision, if_neg zero] at leaves ⊢
      simpa using ih leaves

/-! ### Increments -/

/-- An increment adds one at the last place; what leaves the first digit counts as one. -/
theorem increment_value (digits : List Nat) :
    (increment digits).1.toNat + fractionValue (increment digits).2 =
      fractionValue digits + 1 / 10 ^ digits.length := by
  induction digits with
  | nil => simp [increment, fractionValue]
  | cons digit rest ih =>
    have shifted : (digit + fractionValue rest) / 10 + 1 / 10 ^ (rest.length + 1) =
        (digit + ((increment rest).1.toNat + fractionValue (increment rest).2)) / 10 := by
      rw [ih, pow_succ]
      field_simp
      ring
    simp only [fractionValue, List.length_cons, shifted, increment]
    generalize increment rest = result
    obtain ⟨carry, last⟩ := result
    cases carry with
    | false => simp [fractionValue]
    | true =>
      by_cases nine : digit = 9
      · simp only [nine, if_true, fractionValue, Bool.toNat_true]
        norm_num
        ring
      · simp only [nine, if_false, fractionValue, Bool.toNat_true, Bool.toNat_false]
        push_cast
        ring

theorem increment_isDigits {digits : List Nat} (h : IsDigits digits) : IsDigits (increment digits).2 := by
  induction digits with
  | nil => simp [increment, IsDigits]
  | cons digit rest ih =>
    have head : digit < 10 := h digit (by simp)
    have tail := ih fun d member => h d (by simp [member])
    simp only [increment]
    split
    · rename_i same
      rw [same] at tail
      exact List.forall_mem_cons.2 ⟨head, tail⟩
    · rename_i same
      rw [same] at tail
      split
      · exact List.forall_mem_cons.2 ⟨by decide, tail⟩
      · exact List.forall_mem_cons.2 ⟨by omega, tail⟩

theorem length_increment (digits : List Nat) : (increment digits).2.length = digits.length := by
  induction digits with
  | nil => rfl
  | cons digit rest ih =>
    simp only [increment]
    split
    · rename_i same
      rw [same] at ih
      simp [ih]
    · rename_i same
      rw [same] at ih
      split <;> simp [ih]

/-! ### Rounding -/

/-- A whole number and digits behind the point are a multiple of the last of enough places. -/
theorem exists_value_eq (whole : Nat) {digits : List Nat} {places : Nat} (h : digits.length ≤ places) :
    ∃ steps : Nat, (whole + fractionValue digits) * 10 ^ places = steps := by
  obtain ⟨steps, same⟩ := exists_fractionValue_eq digits
  refine ⟨whole * 10 ^ places + steps * 10 ^ (places - digits.length), ?_⟩
  push_cast
  rw [← same, mul_assoc, ← pow_add, Nat.add_sub_cancel' h]
  ring

/-- Rounding goes to the nearest multiple of the last place, a half upwards. -/
theorem roundedDigits_value {divisor : Nat} (positive : 0 < divisor) (numerator places : Nat) :
    ((roundedDigits numerator divisor places).1 : Rat) +
        fractionValue (roundedDigits numerator divisor places).2 =
      (⌊(numerator : Rat) / divisor * 10 ^ places + 1 / 2⌋ : Int) / 10 ^ places := by
  have divisorPos : (0 : Rat) < divisor := by exact_mod_cast positive
  have placesPos : (0 : Rat) < 10 ^ places := by positivity
  have value := longDivision_value positive places (numerator % divisor)
  have proper := longDivision_left_lt (Nat.mod_lt numerator positive) places
  have short := longDivision_length_le divisor places (numerator % divisor)
  have long := @longDivision_length divisor places (numerator % divisor)
  have division : (numerator : Rat) = divisor * (numerator / divisor : Nat) + (numerator % divisor : Nat) := by
    exact_mod_cast (Nat.div_add_mod numerator divisor).symm
  simp only [roundedDigits]
  generalize longDivision divisor places (numerator % divisor) = result at value proper short long ⊢
  obtain ⟨digits, left⟩ := result
  generalize (numerator / divisor : Nat) = whole at division ⊢
  generalize (numerator % divisor : Nat) = remainder at division value
  simp only at value proper short long ⊢
  obtain ⟨steps, whole_steps⟩ := exists_value_eq whole short
  -- The exact quotient lies `left / divisor` of a step above the digits found.
  have scaled : (numerator : Rat) / divisor * 10 ^ places = steps + left / divisor := by
    rw [← whole_steps, division, add_div, value]
    field_simp
    ring
  have below : (left : Rat) / divisor < 1 := by
    rw [div_lt_one divisorPos]
    exact_mod_cast proper
  by_cases up : divisor ≤ 2 * left
  · have half : 1 / 2 ≤ (left : Rat) / divisor := by
      have doubled : (divisor : Rat) ≤ 2 * left := by exact_mod_cast up
      rw [le_div_iff₀ divisorPos]
      linarith
    have floor : ⌊(numerator : Rat) / divisor * 10 ^ places + 1 / 2⌋ = steps + 1 := by
      rw [Int.floor_eq_iff, scaled]
      push_cast
      constructor <;> linarith
    have incremented := increment_value digits
    rw [long (by omega)] at incremented
    rw [if_pos up, floor]
    simp only [fractionValue_dropTrailingZeros]
    have carried : ((if (increment digits).1 = true then whole + 1 else whole : Nat) : Rat) =
        whole + (increment digits).1.toNat := by
      cases (increment digits).1 <;> simp
    rw [carried, add_assoc, incremented, eq_div_iff (ne_of_gt placesPos)]
    push_cast
    rw [← whole_steps]
    field_simp
    ring
  · have half : (left : Rat) / divisor < 1 / 2 := by
      have doubled : (2 * left : Rat) < divisor := by exact_mod_cast Nat.lt_of_not_le up
      rw [div_lt_iff₀ divisorPos]
      linarith
    have nonneg : 0 ≤ (left : Rat) / divisor := by positivity
    have floor : ⌊(numerator : Rat) / divisor * 10 ^ places + 1 / 2⌋ = steps := by
      rw [Int.floor_eq_iff, scaled]
      push_cast
      constructor <;> linarith
    rw [if_neg up, floor]
    simp only [fractionValue_dropTrailingZeros]
    rw [eq_div_iff (ne_of_gt placesPos), whole_steps]
    rfl

theorem roundedDigits_isDigits {divisor : Nat} (positive : 0 < divisor) (numerator places : Nat) :
    IsDigits (roundedDigits numerator divisor places).2 := by
  have digits := longDivision_isDigits (Nat.mod_lt numerator positive) places
  simp only [roundedDigits]
  split
  · exact (increment_isDigits digits).dropTrailingZeros
  · exact digits.dropTrailingZeros

/-- Rounding to a number of places leaves no more digits than that. -/
theorem roundedDigits_length_le (divisor numerator places : Nat) :
    (roundedDigits numerator divisor places).2.length ≤ places := by
  have short := longDivision_length_le divisor places (numerator % divisor)
  simp only [roundedDigits]
  split
  · have dropped := length_dropTrailingZeros_le
      (increment (longDivision divisor places (numerator % divisor)).1).2
    rw [length_increment] at dropped
    exact dropped.trans short
  · exact (length_dropTrailingZeros_le _).trans short

/-- The magnitude of a value, rounded to its nearest multiple of the last place. -/
theorem roundedDigits_abs (value : Rat) (places : Nat) :
    ((roundedDigits value.num.natAbs value.den places).1 : Rat) +
        fractionValue (roundedDigits value.num.natAbs value.den places).2 =
      (⌊|value| * 10 ^ places + 1 / 2⌋ : Int) / 10 ^ places := by
  rw [roundedDigits_value value.den_pos]
  have magnitude : (value.num.natAbs : Rat) / value.den = |value| := by
    conv_rhs => rw [← Rat.num_div_den value]
    rw [abs_div, Nat.abs_cast, Nat.cast_natAbs, Int.cast_abs]
  rw [magnitude]

end Circuitry.Decimal
