import Circuitry.Host.Builtin
import Circuitry.Proofs.Quantity.Arithmetic

/-!
# The parallel combination

The parallel combination of two quantities is computed through reciprocals, and the result is converted back. On
base values that is the product over the sum, in whatever units the operands are written: scales and symbols of the
reciprocal units do not show in the result. Reciprocals bring in two ways to fail, an exponent that has no opposite
and a sum that is zero, and a zero operand is out of reach of both. What holds of products over sums then holds of
the combination: it does not matter which operand comes first, nor which two of three are combined first.
-/

set_option autoImplicit false

namespace Circuitry.Builtin

variable {a b c : Quantity}

/-! ### Zero operands -/

/-- A zero shorts the pair. -/
theorem combineParallel_of_zero (zero : a.base = 0 ∨ b.base = 0) : combineParallel a b = .ok ⟨0, a.unit⟩ := by
  have shorted : (a.isZero || b.isZero) = true := by
    rwa [Bool.or_eq_true, Quantity.isZero_iff, Quantity.isZero_iff]
  rw [combineParallel, if_pos shorted]

/-- Otherwise the pair is combined by reciprocals. -/
theorem combineParallel_of_nonzero (nonzero : a.base ≠ 0) (nonzero' : b.base ≠ 0) :
    combineParallel a b =
      a.inv.bind fun left => b.inv.bind fun right => (left.add right).inv.bind fun combined =>
        combined.convert a.unit := by
  have apart : ¬(a.isZero || b.isZero) = true := by
    simp [Quantity.isZero_iff, nonzero, nonzero']
  rw [combineParallel, if_neg apart]
  rfl

/-! ### Exponents -/

/-- All exponents but the lowest have opposites. -/
theorem opposite_inRange (dims : Dimensions) (highEnough : ∀ dimension, dims.power dimension ≠ -128)
    (dimension : BaseDimension) : -128 ≤ -dims.power dimension ∧ -dims.power dimension ≤ 127 := by
  have inRange := dims.power_inRange dimension
  have notLowest := highEnough dimension
  omega

/-- The lowest exponent has no opposite. -/
theorem combineParallel_of_lowest (nonzero : a.base ≠ 0) (nonzero' : b.base ≠ 0)
    (lowest : ∃ dimension, a.dims.power dimension = -128) : combineParallel a b = .error .dimensionOverflow := by
  have overflow : a.inv = .error .dimensionOverflow :=
    (Quantity.inv_computes nonzero).overflow.2 (lowest.imp fun dimension is => by omega)
  rw [combineParallel_of_nonzero nonzero nonzero', overflow]
  rfl

/-- If all exponents have opposites, the combination is the reciprocal of a quantity that has the sum of the
reciprocals as its base value. -/
theorem combineParallel_of_opposites (same : a.dims = b.dims) (nonzero : a.base ≠ 0) (nonzero' : b.base ≠ 0)
    (highEnough : ∀ dimension, a.dims.power dimension ≠ -128) :
    ∃ conductance : Quantity, conductance.base = a.base⁻¹ + b.base⁻¹ ∧
      (∀ dimension, -conductance.dims.power dimension = a.dims.power dimension) ∧
      combineParallel a b = conductance.inv.bind fun combined => combined.convert a.unit := by
  obtain ⟨left, madeLeft, base, power, -⟩ :=
    (Quantity.inv_computes nonzero).amount (opposite_inRange a.dims highEnough)
  obtain ⟨right, madeRight, base', -, -⟩ :=
    (Quantity.inv_computes nonzero').amount (opposite_inRange b.dims (same ▸ highEnough))
  refine ⟨left.add right, ?_, fun dimension => ?_, ?_⟩
  · rw [Quantity.base_add, base, base']
  · rw [Quantity.dims_add, power, neg_neg]
  · rw [combineParallel_of_nonzero nonzero nonzero', madeLeft, madeRight]
    rfl

/-- Opposite quantities leave nothing to take the reciprocal of. -/
theorem combineParallel_of_opposite (same : a.dims = b.dims) (nonzero : a.base ≠ 0) (nonzero' : b.base ≠ 0)
    (highEnough : ∀ dimension, a.dims.power dimension ≠ -128) (opposite : a.base + b.base = 0) :
    combineParallel a b = .error .divisionByZero := by
  obtain ⟨conductance, base, -, combines⟩ := combineParallel_of_opposites same nonzero nonzero' highEnough
  have zero : conductance.base = 0 := by
    rw [base, eq_neg_of_add_eq_zero_right opposite, inv_neg, add_neg_cancel]
  rw [combines, Quantity.inv_eq_divisionByZero.2 zero]
  rfl

/-- In all other cases the combination is the product over the sum, in the unit of the first operand. -/
theorem combineParallel_of_sum (same : a.dims = b.dims) (nonzero : a.base ≠ 0) (nonzero' : b.base ≠ 0)
    (highEnough : ∀ dimension, a.dims.power dimension ≠ -128) (sum : a.base + b.base ≠ 0) :
    ∃ q, combineParallel a b = .ok q ∧ q.unit = a.unit ∧ q.base = a.base * b.base / (a.base + b.base) := by
  obtain ⟨conductance, base, power, combines⟩ := combineParallel_of_opposites same nonzero nonzero' highEnough
  have reciprocal : conductance.base⁻¹ = a.base * b.base / (a.base + b.base) := by
    rw [base, inv_add_inv nonzero nonzero', inv_div]
  have conducts : conductance.base ≠ 0 := by
    intro zero
    rw [zero, inv_zero] at reciprocal
    exact div_ne_zero (mul_ne_zero nonzero nonzero') sum reciprocal.symm
  obtain ⟨combined, made, base', power', -⟩ :=
    (Quantity.inv_computes conducts).amount fun dimension => power dimension ▸ a.dims.power_inRange dimension
  have back : combined.dims = a.unit.dims :=
    Dimensions.eq_of_power fun dimension => (power' dimension).trans (power dimension)
  obtain ⟨q, converted, unit, base''⟩ := Quantity.convert_of_dims back
  refine ⟨q, ?_, unit, by rw [base'', base', reciprocal]⟩
  rw [combines, made]
  exact converted

/-! ### Products over sums -/

/-- A combination that succeeds stays in the unit of the first operand, and its base value is the product over the
sum. The sum is zero only if an operand is. -/
theorem combineParallel_eq_ok (same : a.dims = b.dims) {q : Quantity} (made : combineParallel a b = .ok q) :
    q.unit = a.unit ∧ q.base = a.base * b.base / (a.base + b.base) ∧
      (a.base + b.base = 0 → a.base = 0 ∨ b.base = 0) := by
  by_cases zero : a.base = 0 ∨ b.base = 0
  · cases (combineParallel_of_zero zero).symm.trans made
    have nothing : (⟨0, a.unit⟩ : Quantity).base = 0 := zero_mul _
    refine ⟨rfl, ?_, fun _ => zero⟩
    rcases zero with zero | zero <;> simp [nothing, zero]
  · obtain ⟨nonzero, nonzero'⟩ := not_or.1 zero
    have highEnough : ∀ dimension, a.dims.power dimension ≠ -128 := fun dimension lowest =>
      nomatch (combineParallel_of_lowest nonzero nonzero' ⟨dimension, lowest⟩).symm.trans made
    have sum : a.base + b.base ≠ 0 := fun opposite =>
      nomatch (combineParallel_of_opposite same nonzero nonzero' highEnough opposite).symm.trans made
    obtain ⟨_, made', unit, base⟩ := combineParallel_of_sum same nonzero nonzero' highEnough sum
    cases made'.symm.trans made
    exact ⟨unit, base, fun zero => absurd zero sum⟩

theorem combineParallel_eq_error (same : a.dims = b.dims) {error : QuantityError} :
    combineParallel a b = .error error ↔ a.base ≠ 0 ∧ b.base ≠ 0 ∧
      ((error = .dimensionOverflow ∧ ∃ dimension, a.dims.power dimension = -128) ∨
        (error = .divisionByZero ∧ (∀ dimension, a.dims.power dimension ≠ -128) ∧ a.base + b.base = 0)) := by
  constructor
  · intro refused
    have nonzero : ¬(a.base = 0 ∨ b.base = 0) := fun zero =>
      nomatch (combineParallel_of_zero zero).symm.trans refused
    obtain ⟨nonzero, nonzero'⟩ := not_or.1 nonzero
    refine ⟨nonzero, nonzero', ?_⟩
    by_cases lowest : ∃ dimension, a.dims.power dimension = -128
    · cases (combineParallel_of_lowest nonzero nonzero' lowest).symm.trans refused
      exact .inl ⟨rfl, lowest⟩
    · have highEnough := not_exists.1 lowest
      by_cases opposite : a.base + b.base = 0
      · cases (combineParallel_of_opposite same nonzero nonzero' highEnough opposite).symm.trans refused
        exact .inr ⟨rfl, highEnough, opposite⟩
      · obtain ⟨_, made, -⟩ := combineParallel_of_sum same nonzero nonzero' highEnough opposite
        cases made.symm.trans refused
  · rintro ⟨nonzero, nonzero', ⟨rfl, lowest⟩ | ⟨rfl, highEnough, opposite⟩⟩
    · exact combineParallel_of_lowest nonzero nonzero' lowest
    · exact combineParallel_of_opposite same nonzero nonzero' highEnough opposite

/-- Two of three numbers may be combined first, if no combination of numbers apart from zero divides by zero. -/
theorem product_over_sum_assoc {x y z : Rat} (first : x + y = 0 → x = 0 ∨ y = 0)
    (firstThen : x * y / (x + y) + z = 0 → x * y / (x + y) = 0 ∨ z = 0) (last : y + z = 0 → y = 0 ∨ z = 0)
    (lastThen : x + y * z / (y + z) = 0 → x = 0 ∨ y * z / (y + z) = 0) :
    x * y / (x + y) * z / (x * y / (x + y) + z) = x * (y * z / (y + z)) / (x + y * z / (y + z)) := by
  by_cases zero : x = 0 ∨ y = 0 ∨ z = 0
  · rcases zero with rfl | rfl | rfl <;> simp
  · obtain ⟨hx, hy, hz⟩ : x ≠ 0 ∧ y ≠ 0 ∧ z ≠ 0 := by simpa only [not_or] using zero
    have sum : x + y ≠ 0 := fun is => (first is).elim hx hy
    have sum' : y + z ≠ 0 := fun is => (last is).elim hy hz
    have total : x * y / (x + y) + z ≠ 0 := fun is =>
      (firstThen is).elim (div_ne_zero (mul_ne_zero hx hy) sum) hz
    have total' : x + y * z / (y + z) ≠ 0 := fun is =>
      (lastThen is).elim hx (div_ne_zero (mul_ne_zero hy hz) sum')
    rw [div_eq_div_iff total total']
    field_simp
    ring

/-! ### The builtin function -/

/-- Both arguments are found to be known numbers. -/
theorem call_parallel (a b : Quantity) :
    parallel.call [.ofQuantity a, .ofQuantity b] =
      ((combineParallel a b).mapError QuantityError.message).map Value.ofQuantity := by
  change ((combineParallel a b).mapError QuantityError.message).bind (fun q => .ok (Value.ofQuantity q)) = _
  cases combineParallel a b <;> rfl

/-- What the parallel combination of two quantities of the same dimensions is. -/
structure Parallel (a b : Quantity) : Prop where
  /-- A zero shorts the pair. -/
  shorted : a.base = 0 ∨ b.base = 0 → combineParallel a b = .ok ⟨0, a.unit⟩
  /-- Apart from zeros, the lowest exponent overflows, and then opposite quantities divide by zero. -/
  refused : ∀ error, combineParallel a b = .error error ↔ a.base ≠ 0 ∧ b.base ≠ 0 ∧
    ((error = .dimensionOverflow ∧ ∃ dimension, a.dims.power dimension = -128) ∨
      (error = .divisionByZero ∧ (∀ dimension, a.dims.power dimension ≠ -128) ∧ a.base + b.base = 0))
  /-- All other pairs are combined. -/
  combined : a.base ≠ 0 → b.base ≠ 0 → (∀ dimension, a.dims.power dimension ≠ -128) → a.base + b.base ≠ 0 →
    ∃ q, combineParallel a b = .ok q ∧ q.unit = a.unit ∧ q.base = a.base * b.base / (a.base + b.base)
  /-- A call of the function gives the combination, or says why there is none. -/
  called : parallel.call [.ofQuantity a, .ofQuantity b] =
    ((combineParallel a b).mapError QuantityError.message).map Value.ofQuantity
  /-- Exchanged operands are refused for the same reason. -/
  refusedAlike : ∀ error, combineParallel a b = .error error ↔ combineParallel b a = .error error
  commutative : ∀ q q', combineParallel a b = .ok q → combineParallel b a = .ok q' → q.equivalent q' = true
  associative : ∀ c ab bc q q', b.dims = c.dims → combineParallel a b = .ok ab → combineParallel ab c = .ok q →
    combineParallel b c = .ok bc → combineParallel a bc = .ok q' → q.equivalent q' = true

/-- The combination is the product over the sum wherever reciprocals exist, in whatever units the operands are
written. -/
theorem parallel_exact (same : a.dims = b.dims) : Parallel a b where
  shorted := combineParallel_of_zero
  refused _ := combineParallel_eq_error same
  combined := combineParallel_of_sum same
  called := call_parallel a b
  refusedAlike error := by
    rw [combineParallel_eq_error same, combineParallel_eq_error same.symm, same, add_comm b.base]
    tauto
  commutative q q' made made' := by
    obtain ⟨unit, base, -⟩ := combineParallel_eq_ok same made
    obtain ⟨unit', base', -⟩ := combineParallel_eq_ok same.symm made'
    refine Quantity.equivalent_iff.2 ⟨?_, ?_⟩
    · rw [Quantity.dims, Quantity.dims, unit, unit']
      exact same
    · rw [base, base', mul_comm, add_comm]
  associative c ab bc q q' same' made made₁ made' made₂ := by
    obtain ⟨unit, base, sum⟩ := combineParallel_eq_ok same made
    obtain ⟨unit', base', sum'⟩ := combineParallel_eq_ok same' made'
    have dims : ab.dims = a.dims := by rw [Quantity.dims, unit, Quantity.dims]
    have dims' : bc.dims = b.dims := by rw [Quantity.dims, unit', Quantity.dims]
    obtain ⟨unit₁, base₁, sum₁⟩ := combineParallel_eq_ok (dims.trans (same.trans same')) made₁
    obtain ⟨unit₂, base₂, sum₂⟩ := combineParallel_eq_ok (same.trans dims'.symm) made₂
    rw [base] at base₁ sum₁
    rw [base'] at base₂ sum₂
    refine Quantity.equivalent_iff.2 ⟨?_, ?_⟩
    · rw [Quantity.dims, Quantity.dims, unit₁, unit₂, unit]
    · rw [base₁, base₂]
      exact product_over_sum_assoc sum sum₁ sum' sum₂

def ohm : PhysicalUnit := .coherent "ohm" .resistance

def kilohm : PhysicalUnit := ohm.scaledByTen "kohm" 3

theorem base_kilohms (count : Rat) : (⟨count, kilohm⟩ : Quantity).base = count * 1000 := by
  norm_num [Quantity.base, kilohm, ohm, PhysicalUnit.scaledByTen, PhysicalUnit.coherent, Decimal.tenTo]

theorem base_ohms (count : Rat) : (⟨count, ohm⟩ : Quantity).base = count := by
  norm_num [Quantity.base, ohm, PhysicalUnit.coherent]

/-- Three kilohms beside six thousand ohms are two kilohms. -/
theorem kilohms_parallel :
    (⟨3, kilohm⟩ : Quantity).dims = (⟨6000, ohm⟩ : Quantity).dims ∧ Parallel ⟨3, kilohm⟩ ⟨6000, ohm⟩ ∧
      combineParallel ⟨3, kilohm⟩ ⟨6000, ohm⟩ = .ok ⟨2, kilohm⟩ := by
  have exact : Parallel ⟨3, kilohm⟩ ⟨6000, ohm⟩ := parallel_exact rfl
  obtain ⟨⟨magnitude, unit⟩, made, is, combined⟩ :=
    exact.combined (by norm_num [base_kilohms]) (by norm_num [base_ohms])
      (fun dimension => by cases dimension <;> decide) (by norm_num [base_kilohms, base_ohms])
  obtain rfl : unit = kilohm := is
  have two : magnitude * 1000 = 2 * 1000 := by
    rw [← base_kilohms, combined, base_kilohms, base_ohms]
    norm_num
  obtain rfl := mul_right_cancel₀ (by norm_num) two
  exact ⟨rfl, exact, made⟩

end Circuitry.Builtin
