import Circuitry.Proofs.PhysicalUnit.Symbol
import Mathlib.Algebra.Order.Ring.Int

/-!
# Powers as repeated products

A power of a unit is made at once: every exponent is multiplied and the scale is raised. Multiplying the plain
number one by the unit as often as the exponent says, or dividing by it, makes the same unit step by step, and
every step can overflow on its own. With each step every exponent moves on in one direction, so if the last step
stays in range all earlier ones do, and the two ways overflow together.
-/

set_option autoImplicit false

namespace Circuitry

/-! ### Measures in range -/

/-- There are dimensions with the powers of a measure. -/
def Measure.InRange (measure : Measure) : Prop :=
  ∀ base, -128 ≤ (measure.1 base).toAdd ∧ (measure.1 base).toAdd ≤ 127

theorem Measure.inRange_one : InRange 1 := by simp [InRange]

/-- A power in range leaves the next lower one in range. -/
theorem Measure.InRange.of_succ {measure : Measure} {count : Nat} (inRange : InRange (measure ^ (count + 1))) :
    InRange (measure ^ count) := by
  intro base
  have last := inRange base
  simp only [Prod.pow_fst, Pi.pow_apply, toAdd_pow, succ_nsmul] at last ⊢
  -- the step goes the way of all steps before it
  rcases le_total 0 (measure.1 base).toAdd with up | down
  · have before := nsmul_nonneg up count
    omega
  · have before := nsmul_nonpos down count
    omega

theorem Dimensions.isSome_ofInts?_iff {powers : BaseDimension → Int} :
    (ofInts? powers).isSome = true ↔ ∀ base, -128 ≤ powers base ∧ powers base ≤ 127 := by
  rw [Option.isSome_iff_ne_none, ne_eq, ofInts?_eq_none_iff, not_exists]
  exact forall_congr' fun base => by omega

namespace PhysicalUnit

/-! ### When operations on units succeed -/

theorem measure_inRange (unit : PhysicalUnit) : unit.measure.InRange := unit.dims.power_inRange

/-- A product exists exactly if its measure is in range. -/
theorem isSome_mul?_iff (a b : PhysicalUnit) : (a.mul? b).isSome = true ↔ (a.measure * b.measure).InRange := by
  rw [mul?, bind_pure_comp, Option.map_eq_map, Option.isSome_map]
  exact Dimensions.isSome_ofInts?_iff

/-- A quotient exists exactly if its measure is in range. -/
theorem isSome_div?_iff (a b : PhysicalUnit) : (a.div? b).isSome = true ↔ (a.measure / b.measure).InRange := by
  rw [div?, bind_pure_comp, Option.map_eq_map, Option.isSome_map]
  exact Dimensions.isSome_ofInts?_iff

/-- A reciprocal exists exactly if its measure is in range. -/
theorem isSome_inv?_iff (a : PhysicalUnit) : (a.inv?).isSome = true ↔ (a.measure⁻¹).InRange := by
  rw [inv?, bind_pure_comp, Option.map_eq_map, Option.isSome_map]
  exact Dimensions.isSome_ofInts?_iff

/-- A power exists exactly if its measure is in range. -/
theorem isSome_pow?_iff (a : PhysicalUnit) (exponent : Exponent) :
    (a.pow? exponent).isSome = true ↔ (a.measure ^ exponent.toInt).InRange := by
  unfold pow?
  split
  · rename_i zero
    simp [zero, Measure.inRange_one]
  · split
    · rename_i one
      simp [one, a.measure_inRange]
    · rw [bind_pure_comp, Option.map_eq_map, Option.isSome_map]
      refine Dimensions.isSome_ofInts?_iff.trans (forall_congr' fun base => ?_)
      have power : ((a.measure ^ exponent.toInt).1 base).toAdd = a.dims.power base * exponent.toInt := by
        simp [measure, Int.mul_comm]
      rw [power]

/-! ### Repeated steps -/

/-- The plain number one after a number of steps, unless one of them fails. -/
def iterated (step : PhysicalUnit → Option PhysicalUnit) : Nat → Option PhysicalUnit
  | 0 => some one
  | count + 1 => (iterated step count).bind step

/-- The plain number one, multiplied by a unit as often as an exponent says, or divided by it if the exponent is
negative. -/
def repeated (unit : PhysicalUnit) (exponent : Exponent) : Option PhysicalUnit :=
  if 0 ≤ exponent.toInt then iterated (·.mul? unit) exponent.toInt.natAbs
  else iterated (·.div? unit) exponent.toInt.natAbs

/-- A step multiplies every unit by one measure, and fails only where the result is out of range. -/
structure MultipliesBy (factor : Measure) (step : PhysicalUnit → Option PhysicalUnit) : Prop where
  isSome_iff : ∀ unit, (step unit).isSome = true ↔ (unit.measure * factor).InRange
  measure_eq : ∀ unit result, step unit = some result → result.measure = unit.measure * factor

theorem multipliesBy_mul? (unit : PhysicalUnit) : MultipliesBy unit.measure (·.mul? unit) where
  isSome_iff other := isSome_mul?_iff other unit
  measure_eq _ _ made := measure_mul made

theorem multipliesBy_div? (unit : PhysicalUnit) : MultipliesBy unit.measure⁻¹ (·.div? unit) where
  isSome_iff other := by
    rw [← div_eq_mul_inv]
    exact isSome_div?_iff other unit
  measure_eq _ _ made := by rw [← div_eq_mul_inv, measure_div made]

namespace MultipliesBy

variable {factor : Measure} {step : PhysicalUnit → Option PhysicalUnit} (multiplies : MultipliesBy factor step)
include multiplies

/-- Steps multiply by a power of the measure. -/
theorem measure_iterated {count : Nat} {result : PhysicalUnit} (made : iterated step count = some result) :
    result.measure = factor ^ count := by
  induction count generalizing result with
  | zero =>
    cases made
    simp
  | succ count ih =>
    obtain ⟨earlier, madeEarlier, madeLast⟩ := Option.bind_eq_some_iff.1 made
    rw [multiplies.measure_eq earlier result madeLast, ih madeEarlier, pow_succ]

/-- No step fails exactly if what they make together is in range. -/
theorem isSome_iterated_iff (count : Nat) :
    (iterated step count).isSome = true ↔ (factor ^ count).InRange := by
  constructor
  · intro reached
    obtain ⟨result, made⟩ := Option.isSome_iff_exists.1 reached
    rw [← multiplies.measure_iterated made]
    exact result.measure_inRange
  · intro inRange
    induction count with
    | zero => rfl
    | succ count ih =>
      obtain ⟨earlier, made⟩ := Option.isSome_iff_exists.1 (ih inRange.of_succ)
      rw [iterated, made, Option.bind_some, multiplies.isSome_iff, multiplies.measure_iterated made, ← pow_succ]
      exact inRange

end MultipliesBy

/-- Both signs of an exponent repeat a step that multiplies, by the unit or by its inverse. -/
theorem repeated_iterates (unit : PhysicalUnit) (exponent : Exponent) :
    ∃ factor step, MultipliesBy factor step ∧
      unit.repeated exponent = iterated step exponent.toInt.natAbs ∧
      factor ^ exponent.toInt.natAbs = unit.measure ^ exponent.toInt := by
  unfold repeated
  split
  · rename_i nonnegative
    have count : (exponent.toInt.natAbs : Int) = exponent.toInt := Int.natAbs_of_nonneg nonnegative
    exact ⟨unit.measure, _, multipliesBy_mul? unit, rfl, by rw [← zpow_natCast, count]⟩
  · rename_i negative
    have count : (exponent.toInt.natAbs : Int) = -exponent.toInt := Int.ofNat_natAbs_of_nonpos (by omega)
    exact ⟨unit.measure⁻¹, _, multipliesBy_div? unit, rfl, by rw [← zpow_natCast, count, inv_zpow', neg_neg]⟩

/-- A power exists exactly if all the products or quotients that lead to it do, and is then equivalent to the last
of them. -/
theorem pow?_repeated (unit : PhysicalUnit) (exponent : Exponent) :
    Option.Rel (fun power product => power.equivalent product = true ∧ 0 < power.scale ∧ 0 < product.scale)
      (unit.pow? exponent) (unit.repeated exponent) := by
  obtain ⟨factor, step, multiplies, isIterated, together⟩ := unit.repeated_iterates exponent
  have exist : (unit.pow? exponent).isSome = true ↔ (unit.repeated exponent).isSome = true := by
    rw [isSome_pow?_iff, isIterated, multiplies.isSome_iterated_iff, together]
  cases made : unit.pow? exponent with
  | none =>
    have failed : unit.repeated exponent = none := by simpa [made] using exist
    rw [failed]
    exact .none
  | some power =>
    obtain ⟨product, madeProduct⟩ := Option.isSome_iff_exists.1 (exist.1 (by rw [made]; rfl))
    have measures : power.measure = product.measure := by
      rw [measure_pow made, ← together, multiplies.measure_iterated (isIterated.symm.trans madeProduct)]
    rw [madeProduct]
    exact .some ⟨equivalent_iff_measure.2 measures, power.scale_pos, product.scale_pos⟩

end PhysicalUnit

end Circuitry
