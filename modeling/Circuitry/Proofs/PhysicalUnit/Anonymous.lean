import Circuitry.Proofs.PhysicalUnit.Weighing

/-!
# Units without a symbol

A unit without a symbol is shown by its dimensions. Once it is multiplied or divided by a unit that has a symbol,
that symbol alone is shown, and the dimensions of the anonymous factor are lost to the text. This is the only way
in which units of different dimensions come to the same text: what two units of one text have in dimensions
differs exactly by what their texts leave out.

A symbol need not be readable, because evaluating it may overflow where making the unit did not. So units are
compared by what their texts weigh. Whatever a unit is made of, a shadow of it is made in the same way from weights,
with one for every anonymous factor; it has the symbol of the unit and weighs what the symbol shows.
-/

set_option autoImplicit false

namespace Circuitry

open UnitExpression

/-- The units that products, quotients, reciprocals and powers make from the units of a catalog and from coherent
units without a symbol, each with the powers that the latter contribute. -/
inductive Catalog.Composes (catalog : Catalog) : PhysicalUnit → (BaseDimension → Int) → Prop where
  | named {name : String} {unit : PhysicalUnit} : catalog.find? name = some unit → catalog.Composes unit 0
  | anonymous (dims : Dimensions) : catalog.Composes (.coherent "" dims) dims.power
  | mul {a b product : PhysicalUnit} {part part' : BaseDimension → Int} :
      catalog.Composes a part → catalog.Composes b part' → a.mul? b = some product →
      catalog.Composes product (part + part')
  | div {a b quotient : PhysicalUnit} {part part' : BaseDimension → Int} :
      catalog.Composes a part → catalog.Composes b part' → a.div? b = some quotient →
      catalog.Composes quotient (part - part')
  | inv {a reciprocal : PhysicalUnit} {part : BaseDimension → Int} :
      catalog.Composes a part → a.inv? = some reciprocal → catalog.Composes reciprocal (-part)
  | pow {a power : PhysicalUnit} {part : BaseDimension → Int} {exponent : Exponent} :
      catalog.Composes a part → a.pow? exponent = some power →
      catalog.Composes power fun base => part base * exponent.toInt

namespace PhysicalUnit

/-- What the text of a unit leaves out of the powers that its anonymous factors contribute: all of them if the
unit has a symbol, and otherwise none. -/
def lost (unit : PhysicalUnit) (part : BaseDimension → Int) : BaseDimension → Int :=
  if unit.symbol = "" then 0 else part

/-! ### Units made without a symbol -/

theorem productSymbol_eq_empty {a b : String} : productSymbol a b = "" ↔ a = "" ∧ b = "" := by
  unfold productSymbol
  split
  · simp_all
  · split <;> simp_all

theorem quotientSymbol_eq_empty {a b : String} : quotientSymbol a b = "" ↔ a = "" ∧ b = "" := by
  unfold quotientSymbol
  split
  · simp_all
  · split <;> simp_all

theorem reciprocalSymbol_eq_empty {a : String} : reciprocalSymbol a = "" ↔ a = "" := by
  unfold reciprocalSymbol
  split <;> simp_all

theorem powerSymbol_eq_empty {a : String} {exponent : Int} : powerSymbol a exponent = "" ↔ a = "" := by
  unfold powerSymbol
  split <;> simp_all

end PhysicalUnit

namespace Catalog.Composes

open PhysicalUnit

variable {unit : PhysicalUnit} {part : BaseDimension → Int}

/-- Without a symbol a unit is made of anonymous factors alone, so it is coherent. -/
theorem scale_eq_one (composes : Catalog.standard.Composes unit part) (bare : unit.symbol = "") :
    unit.measure.2 = 1 := by
  induction composes with
  | named found =>
    rcases Presented.standard_symbol found with ⟨-, plain⟩ | ⟨nonempty, -⟩
    · rw [plain, Prod.snd_one]
    · exact absurd bare nonempty
  | anonymous dims => exact Units.ext rfl
  | mul _ _ made ihA ihB =>
    rw [symbol_mul made, productSymbol_eq_empty] at bare
    rw [measure_mul made, Prod.snd_mul, ihA bare.1, ihB bare.2, mul_one]
  | div _ _ made ihA ihB =>
    rw [symbol_div made, quotientSymbol_eq_empty] at bare
    rw [measure_div made, Prod.snd_div, ihA bare.1, ihB bare.2, div_one]
  | inv _ made ih =>
    rw [symbol_inv made, reciprocalSymbol_eq_empty] at bare
    rw [measure_inv made, Prod.snd_inv, ih bare, inv_one]
  | @pow a power _ exponent _ made ih =>
    rw [measure_pow made, Prod.pow_snd]
    by_cases zero : exponent.toInt = 0
    · rw [zero, zpow_zero]
    · have empty : a.symbol = "" := by
        rw [symbol_pow made, if_neg zero] at bare
        split at bare
        · exact bare
        · exact powerSymbol_eq_empty.1 bare
      rw [ih empty, one_zpow]

/-! ### Shadows -/

/-- The shadow of a unit among weights has its symbol, writes what it weighs, and weighs the unit without the
anonymous factors. -/
structure Shadow (base : BaseDimension) (unit : PhysicalUnit) (part : BaseDimension → Int)
    (shadow : PhysicalUnit) : Prop where
  presented : shadow.Presented (Catalog.standard.weighed base)
  symbol : shadow.symbol = unit.symbol
  measure : shadow.measure = weight ((unit.measure.1 base).toAdd - part base)

theorem exists_shadow (base : BaseDimension) (composes : Catalog.standard.Composes unit part) :
    ∃ shadow, Shadow base unit part shadow := by
  induction composes with
  | @named name unit found =>
    refine ⟨unit.weighed base, ?_, rfl, ?_⟩
    · rcases Presented.standard_symbol found with ⟨empty, plain⟩ | ⟨nonempty, isName, looked⟩
      · have power : unit.dims.power base = 0 := congrArg (fun measure => (measure.1 base).toAdd) plain
        exact .inl ⟨empty, by rw [measure_weighed, power, weight_zero]⟩
      · refine .of_symbol nonempty isName ?_
        rw [Catalog.find?_weighed]
        exact congrArg _ looked
    · rw [measure_weighed, Pi.zero_apply, sub_zero]
      rfl
  | anonymous dims =>
    -- its powers are all part of the anonymous factors, and the plain number one is left
    refine ⟨one, .inl ⟨rfl, measure_one⟩, rfl, ?_⟩
    rw [measure_one, ← weight_zero]
    exact congrArg weight (sub_self (dims.power base)).symm
  | mul _ _ made ihA ihB =>
    obtain ⟨x, shadowA⟩ := ihA
    obtain ⟨y, shadowB⟩ := ihB
    obtain ⟨product, made', weighs⟩ := mul?_of_weights shadowA.measure shadowB.measure
    refine ⟨product, shadowA.presented.mul shadowB.presented made', ?_, ?_⟩
    · rw [symbol_mul made', symbol_mul made, shadowA.symbol, shadowB.symbol]
    · rw [weighs, measure_mul made, Prod.fst_mul, Pi.mul_apply, toAdd_mul, Pi.add_apply, add_sub_add_comm]
  | div _ _ made ihA ihB =>
    obtain ⟨x, shadowA⟩ := ihA
    obtain ⟨y, shadowB⟩ := ihB
    obtain ⟨quotient, made', weighs⟩ := div?_of_weights shadowA.measure shadowB.measure
    refine ⟨quotient, shadowA.presented.div shadowB.presented made', ?_, ?_⟩
    · rw [symbol_div made', symbol_div made, shadowA.symbol, shadowB.symbol]
    · rw [weighs, measure_div made, Prod.fst_div, Pi.div_apply, toAdd_div, Pi.sub_apply, sub_sub_sub_comm]
  | inv _ made ih =>
    obtain ⟨x, shadow⟩ := ih
    obtain ⟨reciprocal, made', weighs⟩ := inv?_of_weight shadow.measure
    refine ⟨reciprocal, shadow.presented.inv made', ?_, ?_⟩
    · rw [symbol_inv made', symbol_inv made, shadow.symbol]
    · rw [weighs, measure_inv made, Prod.fst_inv, Pi.inv_apply, toAdd_inv, Pi.neg_apply, neg_sub_neg, neg_sub]
  | @pow _ _ _ exponent _ made ih =>
    obtain ⟨x, shadow⟩ := ih
    obtain ⟨power, made', weighs⟩ := pow?_of_weight shadow.measure exponent
    refine ⟨power, shadow.presented.pow made', ?_, ?_⟩
    · rw [symbol_pow made', symbol_pow made, shadow.symbol]
    · rw [weighs, measure_pow made, Prod.pow_fst, Pi.pow_apply, toAdd_zpow, Int.zsmul_eq_mul, sub_mul,
        mul_comm]

/-- The text of a unit weighs the unit without what it leaves out. -/
theorem weighs_text (base : BaseDimension) (composes : Catalog.standard.Composes unit part) :
    Weighs base unit.text (unit.dims.power base - unit.lost part base) := by
  by_cases bare : unit.symbol = ""
  · rw [lost, if_pos bare, Pi.zero_apply, sub_zero]
    by_cases plain : unit.dims.isDimensionless = true
    · have dimensionless : unit.dims = .dimensionless := of_decide_eq_true plain
      refine .inl ⟨by simp [text, bare, plain], ?_⟩
      rw [dimensionless]
      cases base <;> rfl
    · have scale : unit.scale = 1 := congrArg Units.val (composes.scale_eq_one bare)
      have shown : unit.text = unit.dims.text := by simp [text, bare, plain, scale]
      rw [shown]
      exact UnitExpression.weighs_text base unit.dims
  · obtain ⟨shadow, presented, symbol, measure⟩ := composes.exists_shadow base
    have shown : unit.text = unit.symbol := by simp [text, bare]
    rw [shown, lost, if_neg bare]
    rcases presented with ⟨empty, -⟩ | writes
    · exact absurd (symbol.symm.trans empty) bare
    · rw [symbol, measure] at writes
      exact .of_writes writes

end Catalog.Composes

namespace PhysicalUnit

/-- Units of one text have the same dimensions exactly if their texts leave out the same. -/
theorem dims_eq_iff_of_text_eq {a b : PhysicalUnit} {part part' : BaseDimension → Int}
    (ha : Catalog.standard.Composes a part) (hb : Catalog.standard.Composes b part') (same : a.text = b.text) :
    a.dims = b.dims ↔ a.lost part = b.lost part' := by
  have shown (base : BaseDimension) :
      a.dims.power base - a.lost part base = b.dims.power base - b.lost part' base := by
    have weighs := ha.weighs_text base
    rw [same] at weighs
    exact weighs.unique (hb.weighs_text base)
  constructor
  · intro dims
    funext base
    have power : a.dims.power base = b.dims.power base := by rw [dims]
    have shown := shown base
    omega
  · intro lost
    refine Dimensions.eq_of_power fun base => ?_
    have left : a.lost part base = b.lost part' base := by rw [lost]
    have shown := shown base
    omega

/-- The force without a symbol is shown as the product of base units that it is. -/
theorem force_shown : ∃ product part, Catalog.standard.Composes product part ∧
    (coherent "" .force).text = product.text ∧
    ((coherent "" .force).dims = product.dims ↔
      (coherent "" .force).lost Dimensions.force.power = product.lost part) := by
  have made : (do
      let kilogram ← Catalog.standard.find? "kg"
      let metre ← Catalog.standard.find? "m"
      let moment ← kilogram.mul? metre
      let second ← Catalog.standard.find? "s"
      let frequency ← second.pow? ⟨-2, by decide, by decide⟩
      let product ← moment.mul? frequency
      return product.text) = some "kg·m·s^-2" := by decide +kernel
  obtain ⟨kilogram, isKilogram, made⟩ := Option.bind_eq_some_iff.1 made
  obtain ⟨metre, isMetre, made⟩ := Option.bind_eq_some_iff.1 made
  obtain ⟨moment, isMoment, made⟩ := Option.bind_eq_some_iff.1 made
  obtain ⟨second, isSecond, made⟩ := Option.bind_eq_some_iff.1 made
  obtain ⟨frequency, isFrequency, made⟩ := Option.bind_eq_some_iff.1 made
  obtain ⟨product, isProduct, made⟩ := Option.bind_eq_some_iff.1 made
  have composes := ((Catalog.Composes.named isKilogram).mul (.named isMetre) isMoment).mul
    ((Catalog.Composes.named isSecond).pow isFrequency) isProduct
  have shown : product.text = "kg·m·s^-2" := Option.some.inj made
  have same : (coherent "" .force).text = product.text := by
    rw [shown]
    decide +kernel
  exact ⟨product, _, composes, same, dims_eq_iff_of_text_eq (.anonymous .force) composes same⟩

/-- A volt times a force without a symbol is shown as a volt. -/
theorem force_lost : ∃ volt product, Catalog.standard.find? "V" = some volt ∧
    volt.mul? (coherent "" .force) = some product ∧ product.text = volt.text ∧ product.dims ≠ volt.dims := by
  have shown : (do
      let volt ← Catalog.standard.find? "V"
      let product ← volt.mul? (coherent "" .force)
      return decide (product.text = volt.text ∧ product.dims ≠ volt.dims)) = some true := by
    decide +kernel
  obtain ⟨volt, found, shown⟩ := Option.bind_eq_some_iff.1 shown
  obtain ⟨product, made, shown⟩ := Option.bind_eq_some_iff.1 shown
  exact ⟨volt, product, found, made, of_decide_eq_true (Option.some.inj shown)⟩

end PhysicalUnit

end Circuitry
