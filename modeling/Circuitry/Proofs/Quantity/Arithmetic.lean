import Circuitry.Proofs.Quantity.Base
import Mathlib.Algebra.Order.Ring.Abs
import Mathlib.Algebra.Order.Ring.Rat

/-!
# Exact arithmetic of quantities

Operations on quantities say what they do to dimensions and to base values. A product, quotient or reciprocal is
refused exactly if a power of its dimensions is out of range; that a divisor is zero is found before that. Sums,
differences, opposites and absolute values stay in the unit of the (left) operand, a conversion goes to the
unit that is asked for, and comparison looks at dimensions and base values alone.
-/

set_option autoImplicit false

namespace Circuitry.Quantity

/-- A quantity of given base value and dimension powers, in a unit of positive scale. -/
structure Amounts (q : Quantity) (value : Rat) (powers : BaseDimension → Int) : Prop where
  base : q.base = value
  power : ∀ dimension, q.dims.power dimension = powers dimension
  positive : 0 < q.unit.scale

/-- An operation overflows exactly if one of the dimension powers of its result is out of range, and otherwise
gives a quantity of a given base value. -/
structure Computes (result : Except QuantityError Quantity) (value : Rat) (powers : BaseDimension → Int) :
    Prop where
  overflow : result = .error .dimensionOverflow ↔
    ∃ dimension, powers dimension < -128 ∨ 127 < powers dimension
  amount : (∀ dimension, -128 ≤ powers dimension ∧ powers dimension ≤ 127) →
    ∃ q, result = .ok q ∧ q.Amounts value powers

/-! ### Operations that stay in a unit -/

theorem Amounts.of_dims {q : Quantity} {value : Rat} {dims : Dimensions} (base : q.base = value)
    (same : q.dims = dims) : q.Amounts value dims.power :=
  ⟨base, fun _ => by rw [same], q.unit.scale_pos⟩

theorem abs_eq (a : Quantity) : a.abs = ⟨|a.magnitude|, a.unit⟩ := by
  unfold abs
  split
  · rename_i negative
    rw [neg, abs_of_neg negative]
  · rename_i nonnegative
    rw [abs_of_nonneg (not_lt.1 nonnegative)]

theorem base_abs (a : Quantity) : a.abs.base = |a.base| := by
  rw [abs_eq, base, base, abs_mul, abs_of_pos a.unit.scale_pos]

/-- A quantity can be converted to any unit of its dimensions, and has the base value that it had. -/
theorem convert_of_dims {q : Quantity} {target : PhysicalUnit} (same : q.dims = target.dims) :
    ∃ converted, q.convert target = .ok converted ∧ converted.unit = target ∧ converted.base = q.base :=
  ⟨⟨q.magnitudeIn target, target⟩, by rw [convert, if_pos same], rfl, base_magnitudeIn q target⟩

/-! ### Operations on dimensions -/

theorem Computes.of_dims {result : Except QuantityError Quantity} {value : Rat} {powers : BaseDimension → Int}
    (found : ∀ dims, Dimensions.ofInts? powers = some dims →
      ∃ q, result = .ok q ∧ q.dims = dims ∧ q.base = value)
    (missing : Dimensions.ofInts? powers = none → result = .error .dimensionOverflow) :
    Computes result value powers where
  overflow := by
    rw [← Dimensions.ofInts?_eq_none_iff]
    refine ⟨fun overflows => Option.eq_none_iff_forall_ne_some.2 fun dims inRange => ?_, missing⟩
    obtain ⟨q, made, -⟩ := found dims inRange
    cases made.symm.trans overflows
  amount each := by
    obtain ⟨dims, inRange⟩ : ∃ dims, Dimensions.ofInts? powers = some dims :=
      Option.ne_none_iff_exists'.1 fun none => by
        obtain ⟨dimension, outside⟩ := Dimensions.ofInts?_eq_none_iff.1 none
        have inside := each dimension
        omega
    obtain ⟨q, made, same, base⟩ := found dims inRange
    refine ⟨q, made, base, fun dimension => ?_, q.unit.scale_pos⟩
    rw [same, Dimensions.ofInts?_eq_some_iff.1 inRange dimension]

theorem mul_computes (a b : Quantity) :
    Computes (a.mul b) (a.base * b.base) fun dimension => a.dims.power dimension + b.dims.power dimension :=
  .of_dims (fun _ found => mul_of_dims found) fun missing => by
    simp only [mul, PhysicalUnit.mul?]
    rw [show a.unit.dims.mul? b.unit.dims = none from missing]
    rfl

theorem div_computes {a b : Quantity} (nonzero : b.base ≠ 0) :
    Computes (a.div b) (a.base / b.base) fun dimension => a.dims.power dimension - b.dims.power dimension := by
  have isZero : b.isZero = false := Bool.eq_false_iff.2 (mt isZero_iff.1 nonzero)
  refine .of_dims (fun _ found => div_of_dims found isZero) fun missing => ?_
  simp only [div, isZero, PhysicalUnit.div?]
  rw [show a.unit.dims.div? b.unit.dims = none from missing]
  rfl

/-- A reciprocal exists if its dimensions do and the quantity is not zero, and has the reciprocal of the base
value. -/
theorem inv_of_dims {a : Quantity} {dims : Dimensions} (inRange : a.dims.inv? = some dims)
    (nonzero : a.isZero = false) :
    ∃ reciprocal, a.inv = .ok reciprocal ∧ reciprocal.dims = dims ∧ reciprocal.base = a.base⁻¹ := by
  simp only [Quantity.dims] at inRange
  refine ⟨_, by simp only [inv, nonzero, PhysicalUnit.inv?, inRange]; rfl, rfl, ?_⟩
  rw [base, base, mul_inv]

theorem inv_computes {a : Quantity} (nonzero : a.base ≠ 0) :
    Computes a.inv a.base⁻¹ fun dimension => -a.dims.power dimension := by
  have isZero : a.isZero = false := Bool.eq_false_iff.2 (mt isZero_iff.1 nonzero)
  refine .of_dims (fun _ found => inv_of_dims found isZero) fun missing => ?_
  simp only [inv, isZero, PhysicalUnit.inv?]
  rw [show a.unit.dims.inv? = none from missing]
  rfl

/-- Only a zero divisor is reported as one. -/
theorem div_eq_divisionByZero {a b : Quantity} : a.div b = .error .divisionByZero ↔ b.base = 0 := by
  rw [← isZero_iff, div]
  cases b.isZero <;> cases a.unit.div? b.unit <;> simp

theorem inv_eq_divisionByZero {a : Quantity} : a.inv = .error .divisionByZero ↔ a.base = 0 := by
  rw [← isZero_iff, inv]
  cases a.isZero <;> cases a.unit.inv? <;> simp

/-! ### Order -/

theorem orderOf_eq_cmp (x y : Rat) : orderOf x y = cmp x y := by
  simp only [orderOf, cmp, cmpUsing]

theorem compare?_eq_some {a b : Quantity} {order : Ordering} :
    a.compare? b = some order ↔ a.dims = b.dims ∧ orderOf a.base b.base = order := by
  simp [compare?]

/-! ### All operations -/

/-- What the operations on two quantities, and the conversion of the first to a unit, do to dimensions and base
values. -/
structure Exact (a b : Quantity) (target : PhysicalUnit) : Prop where
  sum : a.dims = b.dims → (a.add b).unit = a.unit ∧ (a.add b).Amounts (a.base + b.base) a.dims.power
  difference : a.dims = b.dims → (a.sub b).unit = a.unit ∧ (a.sub b).Amounts (a.base - b.base) a.dims.power
  product : Computes (a.mul b) (a.base * b.base) fun dimension =>
    a.dims.power dimension + b.dims.power dimension
  zeroDivisor : a.div b = .error .divisionByZero ↔ b.base = 0
  quotient : b.base ≠ 0 → Computes (a.div b) (a.base / b.base) fun dimension =>
    a.dims.power dimension - b.dims.power dimension
  zeroReciprocal : a.inv = .error .divisionByZero ↔ a.base = 0
  reciprocal : a.base ≠ 0 → Computes a.inv a.base⁻¹ fun dimension => -a.dims.power dimension
  opposite : a.neg.Amounts (-a.base) a.dims.power
  absolute : a.abs.Amounts |a.base| a.dims.power
  conversion : a.dims = target.dims →
    ∃ q, a.convert target = .ok q ∧ q.unit = target ∧ q.Amounts a.base a.dims.power
  mismatch : a.dims ≠ target.dims → a.convert target = .error (.dimensionMismatch a.dims target.dims)
  less : a.compare? b = some .lt ↔ a.dims = b.dims ∧ a.base < b.base
  equal : a.compare? b = some .eq ↔ a.dims = b.dims ∧ a.base = b.base
  greater : a.compare? b = some .gt ↔ a.dims = b.dims ∧ b.base < a.base
  incomparable : a.compare? b = none ↔ a.dims ≠ b.dims
  same : a.equivalent b = true ↔ a.dims = b.dims ∧ a.base = b.base

/-- Arithmetic on quantities is exact arithmetic on base values and on the powers of dimensions. -/
theorem arithmetic_exact (a b : Quantity) (target : PhysicalUnit) : a.Exact b target where
  sum _ := ⟨rfl, .of_dims (base_add a b) (dims_add a b)⟩
  difference _ := ⟨rfl, .of_dims (base_sub a b) (dims_sub a b)⟩
  product := mul_computes a b
  zeroDivisor := div_eq_divisionByZero
  quotient := div_computes
  zeroReciprocal := inv_eq_divisionByZero
  reciprocal := inv_computes
  opposite := .of_dims (base_neg a) (dims_neg a)
  absolute := .of_dims (base_abs a) (by rw [abs_eq]; rfl)
  conversion same := by
    obtain ⟨q, made, unit, base⟩ := convert_of_dims same
    exact ⟨q, made, unit, .of_dims base (by rw [dims, unit, same])⟩
  mismatch different := if_neg different
  less := compare?_eq_some.trans (and_congr_right fun _ => by rw [orderOf_eq_cmp, cmp_eq_lt_iff])
  equal := compare?_eq_some.trans (and_congr_right fun _ => by rw [orderOf_eq_cmp, cmp_eq_eq_iff])
  greater := compare?_eq_some.trans (and_congr_right fun _ => by rw [orderOf_eq_cmp, cmp_eq_gt_iff])
  incomparable := by simp [compare?]
  same := equivalent_iff

end Circuitry.Quantity
