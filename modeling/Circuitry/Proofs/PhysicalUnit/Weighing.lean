import Circuitry.Proofs.Dimension.RoundTrip
import Circuitry.Proofs.PhysicalUnit.Power
import Mathlib.Algebra.Order.Ring.Rat

/-!
# Weighing unit expressions

To find the power of one base dimension in a unit expression, however large it is, every unit of the catalog is
replaced by one without dimensions that has two to its power of that base dimension for a scale. Products,
quotients and powers then add, subtract and multiply the powers in the scale, and no dimension is left that could
overflow. So a text that spells a phrase is read to its end, also where the units themselves would overflow, and
what it weighs depends on the text alone.
-/

set_option autoImplicit false

namespace Circuitry

open UnitExpression

/-! ### Weights -/

/-- Two as a scale. -/
def twofold : Ratˣ := Units.mk0 2 (by decide)

/-- The measure without dimensions that has a power of two for its scale. -/
def weight (power : Int) : Measure := (1, twofold ^ power)

theorem weight_zero : weight 0 = 1 := by simp [weight]

theorem weight_add (m n : Int) : weight (m + n) = weight m * weight n := by simp [weight, zpow_add]

theorem weight_neg (n : Int) : weight (-n) = (weight n)⁻¹ := by simp [weight]

theorem weight_sub (m n : Int) : weight (m - n) = weight m / weight n := by simp [weight, zpow_sub, div_eq_mul_inv]

theorem weight_mul (m n : Int) : weight (m * n) = weight m ^ n := by simp [weight, zpow_mul]

theorem weight_injective : Function.Injective weight := by
  intro m n same
  have scales : (2 : Rat) ^ m = 2 ^ n := by simpa [weight, twofold, Units.ext_iff] using same
  exact zpow_right_injective₀ (by decide) (by decide) scales

theorem weight_inRange (n : Int) : (weight n).InRange := by simp [weight, Measure.InRange]

namespace PhysicalUnit

variable {a b : PhysicalUnit} {m n : Int}

/-- Units without dimensions have a product, and weights add up. -/
theorem mul?_of_weights (ha : a.measure = weight m) (hb : b.measure = weight n) :
    ∃ product, a.mul? b = some product ∧ product.measure = weight (m + n) := by
  have inRange : (a.measure * b.measure).InRange := by
    rw [ha, hb, ← weight_add]
    exact weight_inRange _
  obtain ⟨product, made⟩ := Option.isSome_iff_exists.1 ((isSome_mul?_iff a b).2 inRange)
  exact ⟨product, made, by rw [measure_mul made, ha, hb, weight_add]⟩

theorem div?_of_weights (ha : a.measure = weight m) (hb : b.measure = weight n) :
    ∃ quotient, a.div? b = some quotient ∧ quotient.measure = weight (m - n) := by
  have inRange : (a.measure / b.measure).InRange := by
    rw [ha, hb, ← weight_sub]
    exact weight_inRange _
  obtain ⟨quotient, made⟩ := Option.isSome_iff_exists.1 ((isSome_div?_iff a b).2 inRange)
  exact ⟨quotient, made, by rw [measure_div made, ha, hb, weight_sub]⟩

theorem inv?_of_weight (ha : a.measure = weight m) :
    ∃ reciprocal, a.inv? = some reciprocal ∧ reciprocal.measure = weight (-m) := by
  have inRange : (a.measure⁻¹).InRange := by
    rw [ha, ← weight_neg]
    exact weight_inRange _
  obtain ⟨reciprocal, made⟩ := Option.isSome_iff_exists.1 ((isSome_inv?_iff a).2 inRange)
  exact ⟨reciprocal, made, by rw [measure_inv made, ha, weight_neg]⟩

theorem pow?_of_weight (ha : a.measure = weight m) (exponent : Exponent) :
    ∃ power, a.pow? exponent = some power ∧ power.measure = weight (m * exponent.toInt) := by
  have inRange : (a.measure ^ exponent.toInt).InRange := by
    rw [ha, ← weight_mul]
    exact weight_inRange _
  obtain ⟨power, made⟩ := Option.isSome_iff_exists.1 ((isSome_pow?_iff a exponent).2 inRange)
  exact ⟨power, made, by rw [measure_pow made, ha, weight_mul]⟩

/-- The unit without dimensions that weighs as much as the power of a base dimension in a unit. -/
def weighed (base : BaseDimension) (unit : PhysicalUnit) : PhysicalUnit :=
  ⟨unit.symbol, .dimensionless, 2 ^ unit.dims.power base, Rat.zpow_pos (by decide)⟩

theorem measure_weighed (base : BaseDimension) (unit : PhysicalUnit) :
    (unit.weighed base).measure = weight (unit.dims.power base) := by
  refine Prod.ext (funext fun other => ?_) (Units.ext ?_)
  · cases other <;> rfl
  · simp [measure, weighed, weight, twofold]

end PhysicalUnit

/-- A catalog with its units replaced by their weights in one base dimension. -/
def Catalog.weighed (base : BaseDimension) (catalog : Catalog) : Catalog :=
  ⟨catalog.entries.map fun entry => (entry.1, entry.2.weighed base)⟩

theorem Catalog.find?_weighed (base : BaseDimension) (catalog : Catalog) (name : String) :
    (catalog.weighed base).find? name = (catalog.find? name).map (PhysicalUnit.weighed base) := by
  simp only [find?, weighed]
  induction catalog.entries with
  | nil => rfl
  | cons entry rest ih =>
    rw [List.map_cons, List.lookup_cons, List.lookup_cons, ih]
    split <;> rfl

/-! ### Phrases -/

namespace UnitExpression

variable {catalog : Catalog} {base : BaseDimension}

namespace Phrase

variable {category : Category} {phrase : Phrase category}

theorem measure_weighed (phrase : Phrase category) :
    phrase.measure (catalog.weighed base) = weight ((phrase.measure catalog).1 base).toAdd := by
  induction phrase with
  | group inner ih => exact ih
  | one => exact weight_zero.symm
  | name letters =>
    simp only [measure, Catalog.find?_weighed, Option.map_map]
    cases catalog.find? (String.ofList letters) with
    | none => exact weight_zero.symm
    | some unit => exact unit.measure_weighed base
  | plain inner ih => exact ih
  | raised inner sign digits ih => simp [measure, ih, ← weight_mul, Int.mul_comm]
  | single factor ih => exact ih
  | times left right ihLeft ihRight => simp [measure, ihLeft, ihRight, weight_add]
  | per left right ihLeft ihRight => simp [measure, ihLeft, ihRight, weight_sub]

/-- What a phrase denotes among weights weighs as much as the phrase. -/
theorem measure_of_value_weighed {unit : PhysicalUnit} (value : phrase.value? (catalog.weighed base) = some unit) :
    unit.measure = weight ((phrase.measure catalog).1 base).toAdd :=
  (measure_value value).trans phrase.measure_weighed

/-- A settled phrase has a value among weights: nothing overflows there. -/
theorem Settled.value_weighed (settled : phrase.Settled (catalog.weighed base)) :
    ∃ unit, phrase.value? (catalog.weighed base) = some unit := by
  induction phrase with
  | group inner ih => exact ih settled
  | one => exact ⟨_, rfl⟩
  | name letters => exact Option.isSome_iff_exists.1 settled.2.2
  | plain inner ih => exact ih settled
  | raised inner sign digits ih =>
    obtain ⟨settledInner, -, -, exists_power⟩ := settled
    obtain ⟨unit, value⟩ := ih settledInner
    obtain ⟨power, made⟩ := Option.isSome_iff_exists.1 (exists_power unit value)
    exact ⟨power, by rw [value?, value]; exact made⟩
  | single factor ih => exact ih settled
  | times left right ihLeft ihRight =>
    obtain ⟨a, valueLeft⟩ := ihLeft settled.1
    obtain ⟨b, valueRight⟩ := ihRight settled.2
    obtain ⟨product, made, -⟩ :=
      PhysicalUnit.mul?_of_weights (measure_of_value_weighed valueLeft) (measure_of_value_weighed valueRight)
    exact ⟨product, by rw [value?, valueLeft, valueRight]; exact made⟩
  | per left right ihLeft ihRight =>
    obtain ⟨a, valueLeft⟩ := ihLeft settled.1
    obtain ⟨b, valueRight⟩ := ihRight settled.2
    obtain ⟨quotient, made, -⟩ :=
      PhysicalUnit.div?_of_weights (measure_of_value_weighed valueLeft) (measure_of_value_weighed valueRight)
    exact ⟨quotient, by rw [value?, valueLeft, valueRight]; exact made⟩

/-- A phrase that has a value has one among weights. -/
theorem value_weighed_of_value {unit : PhysicalUnit} (value : phrase.value? catalog = some unit) :
    ∃ weighed, phrase.value? (catalog.weighed base) = some weighed := by
  induction phrase generalizing unit with
  | group inner ih => exact ih value
  | one => exact ⟨_, rfl⟩
  | name letters =>
    have found : catalog.find? (String.ofList letters) = some unit := value
    exact ⟨unit.weighed base, by rw [value?, Catalog.find?_weighed, found]; rfl⟩
  | plain inner ih => exact ih value
  | raised inner sign digits ih =>
    obtain ⟨a, valueInner, h⟩ := Option.bind_eq_some_iff.1 value
    obtain ⟨exponent, inRange, -⟩ := Option.bind_eq_some_iff.1 h
    obtain ⟨b, weighedInner⟩ := ih valueInner
    obtain ⟨power, made, -⟩ := PhysicalUnit.pow?_of_weight (measure_of_value_weighed weighedInner) exponent
    exact ⟨power, by rw [value?, weighedInner, inRange]; exact made⟩
  | single factor ih => exact ih value
  | times left right ihLeft ihRight =>
    obtain ⟨_, valueLeft, h⟩ := Option.bind_eq_some_iff.1 value
    obtain ⟨_, valueRight, -⟩ := Option.bind_eq_some_iff.1 h
    obtain ⟨a, weighedLeft⟩ := ihLeft valueLeft
    obtain ⟨b, weighedRight⟩ := ihRight valueRight
    obtain ⟨product, made, -⟩ :=
      PhysicalUnit.mul?_of_weights (measure_of_value_weighed weighedLeft) (measure_of_value_weighed weighedRight)
    exact ⟨product, by rw [value?, weighedLeft, weighedRight]; exact made⟩
  | per left right ihLeft ihRight =>
    obtain ⟨_, valueLeft, h⟩ := Option.bind_eq_some_iff.1 value
    obtain ⟨_, valueRight, -⟩ := Option.bind_eq_some_iff.1 h
    obtain ⟨a, weighedLeft⟩ := ihLeft valueLeft
    obtain ⟨b, weighedRight⟩ := ihRight valueRight
    obtain ⟨quotient, made, -⟩ :=
      PhysicalUnit.div?_of_weights (measure_of_value_weighed weighedLeft) (measure_of_value_weighed weighedRight)
    exact ⟨quotient, by rw [value?, weighedLeft, weighedRight]; exact made⟩

end Phrase

/-! ### Texts -/

/-- The power of a base dimension in a text. The empty text is that of the plain number one. -/
def Weighs (base : BaseDimension) (text : String) (power : Int) : Prop :=
  (text = "" ∧ power = 0) ∨
    ∃ unit, (Catalog.standard.weighed base).parse text = .ok unit ∧ unit.measure = weight power

theorem parse_empty (catalog : Catalog) : catalog.parse "" = .error .empty := rfl

/-- A text has one weight. -/
theorem Weighs.unique {text : String} {m n : Int} (first : Weighs base text m) (second : Weighs base text n) :
    m = n := by
  rcases first with ⟨rfl, rfl⟩ | ⟨unit, parsed, measure⟩ <;>
    rcases second with ⟨empty, rfl⟩ | ⟨unit', parsed', measure'⟩
  · rfl
  · cases (parse_empty _).symm.trans parsed'
  · subst empty
    cases (parse_empty _).symm.trans parsed
  · cases parsed.symm.trans parsed'
    exact weight_injective (measure.symm.trans measure')

/-- A text that spells a phrase with a value among weights weighs as much as the phrase. -/
theorem Weighs.of_spells {phrase : Phrase .product} {text : String} (spells : Spells phrase text.toList)
    (value : ∃ unit, phrase.value? (Catalog.standard.weighed base) = some unit) :
    Weighs base text ((phrase.measure .standard).1 base).toAdd := by
  obtain ⟨unit, value⟩ := value
  refine .inr ⟨unit, ?_, Phrase.measure_of_value_weighed value⟩
  rw [Catalog.parse_of_spells spells]
  exact spells.evaluate_eq_ok_iff.2 value

theorem Weighs.of_writes {text : String} {power : Int}
    (writes : Writes (Catalog.standard.weighed base) .product text.toList (weight power)) :
    Weighs base text power := by
  obtain ⟨phrase, written, settled, measure⟩ := writes
  have weighs : Weighs base text ((phrase.measure .standard).1 base).toAdd :=
    .of_spells (written ▸ settled.spells) settled.value_weighed
  rwa [weight_injective (phrase.measure_weighed.symm.trans measure)] at weighs

/-- The text of dimensions weighs what the dimensions do. -/
theorem weighs_text (base : BaseDimension) (dims : Dimensions) : Weighs base dims.text (dims.power base) := by
  obtain ⟨phrase, unit, spells, value, coherent⟩ := dims.denotes_text
  have weighs : Weighs base dims.text ((phrase.measure .standard).1 base).toAdd :=
    .of_spells spells (Phrase.value_weighed_of_value value)
  rw [← Phrase.measure_value value] at weighs
  change Weighs base dims.text (unit.dims.power base) at weighs
  rwa [coherent.dims_eq] at weighs

end UnitExpression

end Circuitry
