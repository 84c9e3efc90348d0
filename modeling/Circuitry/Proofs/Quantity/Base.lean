import Circuitry.Quantity.Basic
import Mathlib.Algebra.Field.Rat
import Mathlib.Tactic.FieldSimp
import Mathlib.Tactic.Ring

/-!
# Arithmetic on base values

What an operation does to base values and dimensions. Magnitudes and scales are combined apart from each
other; together they do to base values what the operation is named for, so the result does not depend on the
units in which the operands are written.
-/

set_option autoImplicit false

namespace Circuitry.Quantity

theorem scale_ne_zero (unit : PhysicalUnit) : unit.scale ≠ 0 := ne_of_gt unit.scale_pos

theorem base_magnitudeIn (q : Quantity) (target : PhysicalUnit) :
    q.magnitudeIn target * target.scale = q.base := by
  have nonzero := scale_ne_zero target
  simp only [magnitudeIn, PhysicalUnit.conversionFactor, base]
  field_simp

theorem isZero_iff {q : Quantity} : q.isZero = true ↔ q.base = 0 := by
  simp [isZero, base, scale_ne_zero]

@[simp] theorem dims_add (a b : Quantity) : (a.add b).dims = a.dims := rfl

@[simp] theorem dims_sub (a b : Quantity) : (a.sub b).dims = a.dims := rfl

@[simp] theorem dims_neg (a : Quantity) : a.neg.dims = a.dims := rfl

theorem base_add (a b : Quantity) : (a.add b).base = a.base + b.base := by
  rw [← base_magnitudeIn b a.unit]
  simp only [add, base]
  ring

theorem base_sub (a b : Quantity) : (a.sub b).base = a.base - b.base := by
  rw [← base_magnitudeIn b a.unit]
  simp only [sub, base]
  ring

theorem base_neg (a : Quantity) : a.neg.base = -a.base := by
  simp only [neg, base]
  ring

/-- A product exists if its dimensions do, and has the product of the base values. -/
theorem mul_of_dims {a b : Quantity} {dims : Dimensions} (inRange : a.dims.mul? b.dims = some dims) :
    ∃ product, a.mul b = .ok product ∧ product.dims = dims ∧ product.base = a.base * b.base := by
  simp only [Quantity.dims] at inRange
  refine ⟨_, by simp only [mul, PhysicalUnit.mul?, inRange]; rfl, rfl, ?_⟩
  simp only [base]
  ring

/-- A quotient exists if its dimensions do and the divisor is not zero, and has the quotient of the base
values. -/
theorem div_of_dims {a b : Quantity} {dims : Dimensions} (inRange : a.dims.div? b.dims = some dims)
    (nonzero : b.isZero = false) :
    ∃ quotient, a.div b = .ok quotient ∧ quotient.dims = dims ∧ quotient.base = a.base / b.base := by
  simp only [Quantity.dims] at inRange
  refine ⟨_, by simp only [div, nonzero, PhysicalUnit.div?, inRange]; rfl, rfl, ?_⟩
  simp only [base]
  have := scale_ne_zero b.unit
  ring

theorem div_zero {a b : Quantity} (zero : b.isZero = true) : a.div b = .error .divisionByZero := by
  simp [div, zero]

theorem compare?_of_dims {a b : Quantity} (sameDims : a.dims = b.dims) :
    a.compare? b = some (orderOf a.base b.base) := by
  simp [compare?, sameDims]

/-! ### Equivalent quantities -/

theorem equivalent_iff {a b : Quantity} : a.equivalent b = true ↔ a.dims = b.dims ∧ a.base = b.base := by
  simp [equivalent]

end Circuitry.Quantity
