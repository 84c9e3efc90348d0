import Circuitry.Proofs.PhysicalUnit.Sentence

/-!
# Reading dimensions back

Dimensions are written as a product of base units, each raised to its exponent. The standard catalog knows the
base units under their symbols and gives all of them scale one, the kilogram as a thousand grams. Read from left
to right, a factor adds its own exponent and leaves the others as they are, so every product on the way has
exponents of the dimensions or zeros, and none of them can overflow.
-/

set_option autoImplicit false

namespace Circuitry

open UnitExpression

/-- The exponent that is left out in writing. -/
def Exponent.one : Exponent := ⟨1, by decide, by decide⟩

namespace Dimensions

/-! ### Parts of dimensions -/

/-- The dimensions that keep the exponents of some base dimensions and leave the others out. -/
def restricted (dims : Dimensions) (bases : List BaseDimension) : Dimensions :=
  let kept (base : BaseDimension) (exponent : Exponent) := if base ∈ bases then exponent else Exponent.zero
  { mass := kept .mass dims.mass
    length := kept .length dims.length
    angle := kept .angle dims.angle
    time := kept .time dims.time
    current := kept .current dims.current
    luminous := kept .luminous dims.luminous }

theorem power_single (base other : BaseDimension) (exponent : Exponent) :
    (single base exponent).power other = if other = base then exponent.toInt else 0 := by
  cases base <;> cases other <;> rfl

variable (dims : Dimensions)

theorem power_restricted (bases : List BaseDimension) (base : BaseDimension) :
    (dims.restricted bases).power base = if base ∈ bases then dims.power base else 0 := by
  cases base <;> simp only [restricted, power] <;> split <;> rfl

/-- What dimensions are in one base dimension. -/
theorem restricted_singleton (base : BaseDimension) :
    ∃ exponent : Exponent, exponent.toInt = dims.power base ∧ dims.restricted [base] = single base exponent := by
  obtain ⟨lower, upper⟩ := dims.power_inRange base
  refine ⟨⟨dims.power base, lower, upper⟩, rfl, eq_of_power fun other => ?_⟩
  rw [power_single, power_restricted]
  by_cases isBase : other = base <;> simp [isBase]

/-- A base dimension that has not occurred yet joins the others without an overflow. -/
theorem mul_restricted {bases : List BaseDimension} {base : BaseDimension} (fresh : base ∉ bases) :
    (dims.restricted bases).mul? (dims.restricted [base]) = some (dims.restricted (bases ++ [base])) := by
  refine ofInts?_eq_some_iff.2 fun other => ?_
  simp only [power_restricted, List.mem_append, List.mem_singleton]
  by_cases same : other = base
  · simp [same, fresh]
  · simp [same]

/-- The factors in writing are all that the dimensions consist of. -/
theorem restricted_factors : dims.restricted dims.factors = dims := by
  refine eq_of_power fun base => ?_
  rw [power_restricted]
  split
  · rfl
  · rename_i absent
    have everywhere : base ∈ BaseDimension.all := by cases base <;> decide
    simp only [factors, List.mem_append, List.mem_filter, everywhere, decide_eq_true_eq, true_and, not_or] at absent
    omega

/-- No base dimension is written twice. -/
theorem nodup_factors : dims.factors.Nodup := by
  have all : BaseDimension.all.Nodup := by decide
  refine List.nodup_append.2 ⟨all.filter _, all.filter _, fun first positive second negative same => ?_⟩
  simp only [List.mem_filter, decide_eq_true_eq] at positive negative
  subst same
  omega

end Dimensions

/-! ### Coherent units -/

namespace PhysicalUnit

/-- A unit of scale one. -/
structure IsCoherent (unit : PhysicalUnit) (dims : Dimensions) : Prop where
  dims_eq : unit.dims = dims
  scale_eq : unit.scale = 1

/-- A coherent base unit can be raised to every exponent. -/
theorem IsCoherent.pow {unit : PhysicalUnit} {base : BaseDimension} (coherent : unit.IsCoherent (.single base .one))
    (exponent : Exponent) :
    ∃ power, unit.pow? exponent = some power ∧ power.IsCoherent (.single base exponent) := by
  obtain ⟨dims, scale⟩ := coherent
  unfold pow?
  split
  · rename_i zero
    have none : exponent = Exponent.zero := Exponent.eq_of_toInt zero
    refine ⟨one, rfl, ?_, rfl⟩
    rw [none]
    cases base <;> rfl
  · split
    · rename_i plain
      have first : exponent = .one := Exponent.eq_of_toInt plain
      exact ⟨unit, rfl, by rw [dims, first], scale⟩
    · have raised : unit.dims.pow? exponent = some (.single base exponent) := by
        refine Dimensions.ofInts?_eq_some_iff.2 fun other => ?_
        rw [dims, Dimensions.power_single, Dimensions.power_single]
        by_cases isBase : other = base <;> simp [isBase, Exponent.one]
      exact ⟨_, by rw [raised]; rfl, rfl, by simp [scale]⟩

/-- Coherent units have a coherent product. -/
theorem IsCoherent.mul {a b : PhysicalUnit} {aDims bDims dims : Dimensions} (ha : a.IsCoherent aDims)
    (hb : b.IsCoherent bDims) (inRange : aDims.mul? bDims = some dims) :
    ∃ product, a.mul? b = some product ∧ product.IsCoherent dims := by
  rw [← ha.dims_eq, ← hb.dims_eq] at inRange
  exact ⟨_, by rw [mul?, inRange]; rfl, rfl, by simp [ha.scale_eq, hb.scale_eq]⟩

end PhysicalUnit

namespace BaseDimension

variable (base : BaseDimension)

/-- The standard catalog has each base unit under its symbol. -/
theorem find?_symbol :
    ∃ unit, Catalog.standard.find? base.symbol = some unit ∧ unit.IsCoherent (.single base .one) := by
  have registered : ((Catalog.standard.find? base.symbol).any fun unit =>
      unit.dims = .single base .one && unit.scale = 1) = true := by
    cases base <;> decide +kernel
  obtain ⟨unit, found, coherent⟩ := (Option.any_eq_true _ _).1 registered
  rw [Bool.and_eq_true, decide_eq_true_eq, decide_eq_true_eq] at coherent
  exact ⟨unit, found, coherent.1, coherent.2⟩

theorem isNameChar_symbol : ∀ c ∈ base.symbol.toList, isNameChar c = true := by
  have all : base.symbol.toList.all isNameChar = true := by cases base <;> decide +kernel
  exact List.all_eq_true.1 all

theorem symbol_ne_nil : base.symbol.toList ≠ [] := by
  cases base <;> decide

end BaseDimension

namespace UnitExpression

/-! ### Products of base units -/

/-- A text spells a phrase to which the standard catalog gives a coherent unit. -/
def Denotes (category : Category) (text : List Char) (dims : Dimensions) : Prop :=
  ∃ (phrase : Phrase category) (unit : PhysicalUnit),
    Spells phrase text ∧ phrase.value? .standard = some unit ∧ unit.IsCoherent dims

/-- The factor of one base dimension in the text of dimensions. -/
def factorSpelling (dims : Dimensions) (base : BaseDimension) : List Char :=
  (Dimensions.factorText base.symbol (dims.power base)).toList

variable {dims : Dimensions}

/-- A factor denotes the part of the dimensions in its base dimension. -/
theorem denotes_factorSpelling (dims : Dimensions) (base : BaseDimension) :
    Denotes .power (factorSpelling dims base) (dims.restricted [base]) := by
  obtain ⟨exponent, isPower, part⟩ := dims.restricted_singleton base
  rw [factorSpelling, ← isPower, part]
  obtain ⟨unit, found, coherent⟩ := base.find?_symbol
  have name : Spells (.name base.symbol.toList) base.symbol.toList :=
    .name_tight base.symbol_ne_nil base.isNameChar_symbol
  have value : Phrase.value? .standard (.name base.symbol.toList) = some unit := by
    rwa [Phrase.value?, String.ofList_toList]
  unfold Dimensions.factorText
  split
  · rename_i plain
    have first : exponent = .one := Exponent.eq_of_toInt plain
    exact ⟨.plain (.name base.symbol.toList), unit, .plain name, value, first ▸ coherent⟩
  · obtain ⟨sign, digits, spelled, nonempty, isDigit, written⟩ := Decimal.intText_spelled exponent.toInt
    obtain ⟨power, made, isPower⟩ := coherent.pow exponent
    refine ⟨.raised (.name base.symbol.toList) sign digits, power, ?_, ?_, isPower⟩
    · have raised : Spells (.raised (.name base.symbol.toList) sign digits) _ := name.raised_tight nonempty isDigit
      rw [← spelled] at raised
      simpa using raised
    · rw [Phrase.value?, value, written, Exponent.ofInt?_eq_some_iff.2 rfl]
      exact made

theorem Denotes.single {text : List Char} (h : Denotes .power text dims) : Denotes .product text dims := by
  obtain ⟨phrase, unit, spells, value, coherent⟩ := h
  exact ⟨.single phrase, unit, .single spells, value, coherent⟩

/-- One factor further, a product denotes the part in one more base dimension. -/
theorem Denotes.times {text : List Char} {bases : List BaseDimension} {base : BaseDimension}
    (h : Denotes .product text (dims.restricted bases)) (fresh : base ∉ bases) :
    Denotes .product (text ++ '·' :: factorSpelling dims base) (dims.restricted (bases ++ [base])) := by
  obtain ⟨left, product, spellsLeft, valueLeft, isLeft⟩ := h
  obtain ⟨right, factor, spellsRight, valueRight, isRight⟩ := denotes_factorSpelling dims base
  obtain ⟨longer, made, isLonger⟩ := isLeft.mul isRight (dims.mul_restricted fresh)
  refine ⟨.times left right, longer, .times spellsLeft (.inr rfl) spellsRight, ?_, isLonger⟩
  rw [Phrase.value?, valueLeft, valueRight]
  exact made

/-- A product denotes the part in all its base dimensions, as long as none occurs twice. -/
theorem Denotes.factors {text : List Char} {bases : List BaseDimension} (rest : List BaseDimension)
    (h : Denotes .product text (dims.restricted bases)) (distinct : (bases ++ rest).Nodup) :
    Denotes .product (text ++ rest.flatMap fun base => '·' :: factorSpelling dims base)
      (dims.restricted (bases ++ rest)) := by
  induction rest generalizing text bases with
  | nil => simpa using h
  | cons base rest ih =>
    rw [List.append_cons] at distinct
    have fresh : base ∉ bases := by
      have front := (List.nodup_append.1 distinct).1
      exact fun seen => (List.nodup_append.1 front).2.2 base seen base (by simp) rfl
    have further := ih (h.times fresh) distinct
    rwa [← List.append_cons, List.append_assoc, List.cons_append] at further

end UnitExpression

namespace Dimensions

/-! ### Texts -/

theorem factors_eq_nil {dims : Dimensions} (empty : dims.factors = []) : dims = dimensionless := by
  rw [← dims.restricted_factors, empty]
  rfl

theorem intercalate_cons {α : Type} (separator first : List α) (rest : List (List α)) :
    separator.intercalate (first :: rest) = first ++ rest.flatMap (separator ++ ·) := by
  induction rest generalizing first with
  | nil => simp [List.intercalate_singleton]
  | cons second rest ih => rw [List.intercalate_cons_cons, ih, List.flatMap_cons, List.append_assoc, List.append_assoc]

/-- The text of dimensions begins with the first factor, and a dot stands before each further one. -/
theorem toList_text {dims : Dimensions} {first : BaseDimension} {rest : List BaseDimension}
    (written : dims.factors = first :: rest) :
    dims.text.toList = factorSpelling dims first ++ rest.flatMap fun base => '·' :: factorSpelling dims base := by
  have factored : dims.isDimensionless = false := by
    rw [Bool.eq_false_iff]
    intro plain
    have none : dims = dimensionless := of_decide_eq_true plain
    have empty : dimensionless.factors = [] := by decide
    rw [none, empty] at written
    cases written
  rw [text, factored, if_neg Bool.false_ne_true, String.toList_intercalate, written, List.map_cons, List.map_cons,
    intercalate_cons]
  simp [List.flatMap_map, factorSpelling]

example : conductance.text = "s^3·A^2·kg^-1·m^-2" := by decide +kernel

/-- The text of dimensions denotes these dimensions. -/
theorem denotes_text (dims : Dimensions) : Denotes .product dims.text.toList dims := by
  cases written : dims.factors with
  | nil =>
    rw [factors_eq_nil written]
    exact ⟨.single (.plain .one), .one, .single (.plain (.one .nil .nil)), rfl, rfl, rfl⟩
  | cons first rest =>
    have distinct : ([first] ++ rest).Nodup := by
      rw [List.singleton_append, ← written]
      exact dims.nodup_factors
    have denotes := (denotes_factorSpelling dims first).single.factors rest distinct
    rwa [List.singleton_append, ← written, restricted_factors, ← toList_text written] at denotes

/-- The standard catalog reads the text of any dimensions as a unit of scale one with these dimensions, so that
no two dimensions have one text. -/
theorem parse_text_injective :
    (∀ dims : Dimensions,
      ∃ unit, Catalog.standard.parse dims.text = .ok unit ∧ unit.dims = dims ∧ unit.scale = 1) ∧
      Function.Injective text := by
  have read (dims : Dimensions) :
      ∃ unit, Catalog.standard.parse dims.text = .ok unit ∧ unit.dims = dims ∧ unit.scale = 1 := by
    obtain ⟨phrase, unit, spells, value, coherent⟩ := dims.denotes_text
    refine ⟨unit, ?_, coherent.dims_eq, coherent.scale_eq⟩
    rw [Catalog.parse_of_spells spells]
    exact spells.evaluate_eq_ok_iff.2 value
  refine ⟨read, fun first second same => ?_⟩
  obtain ⟨unit, parsed, isFirst, _⟩ := read first
  obtain ⟨unit', parsed', isSecond, _⟩ := read second
  rw [same, parsed'] at parsed
  rw [← isFirst, ← isSecond, Except.ok.inj parsed]

end Dimensions

end Circuitry
