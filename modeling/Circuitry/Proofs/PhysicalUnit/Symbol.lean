import Circuitry.Proofs.PhysicalUnit.Sentence
import Mathlib.Algebra.Field.Rat
import Mathlib.Algebra.Group.Prod
import Mathlib.Algebra.Group.Pi.Basic
import Mathlib.Algebra.Group.TypeTags.Basic
import Mathlib.Algebra.GroupWithZero.Units.Basic

/-!
# Symbols of compound units

The symbol of a compound unit is a unit expression again. What it denotes is compared with the unit by
measure: the powers of the base dimensions and the scale, without symbols and without bounds, which form a
commutative group. Products of symbols regroup what they are made of, so the phrase that a symbol spells is
not the way the unit was made, but it has the same measure.

Evaluating the phrase can run over the range of exponents where making the unit did not. Nothing else can
go wrong, and where nothing does, the result has the measure of the unit.
-/

set_option autoImplicit false

namespace Circuitry

/-! ### Measures -/

/-- The powers of the base dimensions and the scale. -/
abbrev Measure := (BaseDimension → Multiplicative Int) × Ratˣ

namespace PhysicalUnit

/-- What a unit is, apart from its symbol. -/
def measure (unit : PhysicalUnit) : Measure :=
  (fun base => .ofAdd (unit.dims.power base), .mk0 unit.scale (ne_of_gt unit.scale_pos))

theorem measure_ext {a b : PhysicalUnit} (dims : ∀ base, a.dims.power base = b.dims.power base)
    (scale : a.scale = b.scale) : a.measure = b.measure := by
  refine Prod.ext (funext fun base => ?_) (Units.ext scale)
  exact congrArg Multiplicative.ofAdd (dims base)

/-- Units are equivalent exactly if they have one measure. -/
theorem equivalent_iff_measure {a b : PhysicalUnit} : a.equivalent b = true ↔ a.measure = b.measure := by
  simp only [equivalent, Bool.and_eq_true, decide_eq_true_eq]
  constructor
  · rintro ⟨dims, scale⟩
    exact measure_ext (fun base => by rw [dims]) scale
  · intro same
    have powers (base : BaseDimension) : a.dims.power base = b.dims.power base :=
      Multiplicative.ofAdd.injective (congrFun (congrArg Prod.fst same) base)
    exact ⟨Dimensions.eq_of_power powers, congrArg Units.val (congrArg Prod.snd same)⟩

@[simp] theorem measure_one : one.measure = 1 := by
  refine Prod.ext (funext fun base => ?_) (Units.ext rfl)
  cases base <;> rfl

theorem measure_mul {a b product : PhysicalUnit} (h : a.mul? b = some product) :
    product.measure = a.measure * b.measure := by
  obtain ⟨dims, inRange, made⟩ := Option.bind_eq_some_iff.1 h
  cases made
  have powers := Dimensions.ofInts?_eq_some_iff.1 inRange
  refine Prod.ext (funext fun base => ?_) (Units.ext rfl)
  exact congrArg Multiplicative.ofAdd (powers base)

theorem measure_div {a b quotient : PhysicalUnit} (h : a.div? b = some quotient) :
    quotient.measure = a.measure / b.measure := by
  obtain ⟨dims, inRange, made⟩ := Option.bind_eq_some_iff.1 h
  cases made
  have powers := Dimensions.ofInts?_eq_some_iff.1 inRange
  refine Prod.ext (funext fun base => ?_) (Units.ext ?_)
  · exact congrArg Multiplicative.ofAdd (powers base)
  · simp [measure]

theorem measure_inv {a reciprocal : PhysicalUnit} (h : a.inv? = some reciprocal) :
    reciprocal.measure = a.measure⁻¹ := by
  obtain ⟨dims, inRange, made⟩ := Option.bind_eq_some_iff.1 h
  cases made
  have powers := Dimensions.ofInts?_eq_some_iff.1 inRange
  refine Prod.ext (funext fun base => ?_) (Units.ext ?_)
  · exact congrArg Multiplicative.ofAdd (powers base)
  · simp [measure]

theorem measure_pow {a power : PhysicalUnit} {exponent : Exponent} (h : a.pow? exponent = some power) :
    power.measure = a.measure ^ exponent.toInt := by
  unfold pow? at h
  split at h
  · rename_i zero
    cases h
    simp [zero]
  · split at h
    · rename_i one
      cases h
      simp [one]
    · obtain ⟨dims, inRange, made⟩ := Option.bind_eq_some_iff.1 h
      cases made
      have powers := Dimensions.ofInts?_eq_some_iff.1 inRange
      refine Prod.ext (funext fun base => ?_) (Units.ext ?_)
      · change Multiplicative.ofAdd (dims.power base) =
          Multiplicative.ofAdd (a.dims.power base) ^ exponent.toInt
        rw [powers base, ← ofAdd_zsmul, Int.zsmul_eq_mul, Int.mul_comm]
      · simp [measure]

/-- Whether a power exists depends on the measure alone. -/
theorem pow?_isSome_congr {a b : PhysicalUnit} (same : a.measure = b.measure) (exponent : Exponent) :
    (a.pow? exponent).isSome = (b.pow? exponent).isSome := by
  have dims : a.dims = b.dims := by
    have equal := equivalent_iff_measure.2 same
    simp only [equivalent, Bool.and_eq_true, decide_eq_true_eq] at equal
    exact equal.1
  unfold pow?
  split
  · rfl
  · split
    · rfl
    · rw [dims]
      cases b.dims.pow? exponent <;> rfl

end PhysicalUnit

namespace UnitExpression

variable {catalog : Catalog}

/-! ### Phrases by measure -/

namespace Phrase

/-- The measure of a phrase, in which exponents have no bounds. -/
def measure (catalog : Catalog) {category : Category} : Phrase category → Measure
  | .group inner => inner.measure catalog
  | .one => 1
  | .name letters => ((catalog.find? (String.ofList letters)).map PhysicalUnit.measure).getD 1
  | .plain base => base.measure catalog
  | .raised base sign digits => base.measure catalog ^ sign.apply (Decimal.digitsValue digits)
  | .single factor => factor.measure catalog
  | .times left right => left.measure catalog * right.measure catalog
  | .per left right => left.measure catalog / right.measure catalog

/-- The value of a phrase has the measure of the phrase. -/
theorem measure_value {category : Category} {phrase : Phrase category} {unit : PhysicalUnit}
    (h : phrase.value? catalog = some unit) : unit.measure = phrase.measure catalog := by
  induction phrase generalizing unit with
  | group inner ih => exact ih h
  | one =>
    cases h
    exact PhysicalUnit.measure_one
  | name letters =>
    have found : catalog.find? (String.ofList letters) = some unit := h
    simp [measure, found]
  | plain base ih => exact ih h
  | raised base sign digits ih =>
    obtain ⟨inner, found, h⟩ := Option.bind_eq_some_iff.1 h
    obtain ⟨exponent, inRange, h⟩ := Option.bind_eq_some_iff.1 h
    rw [PhysicalUnit.measure_pow h, ih found, Exponent.ofInt?_eq_some_iff.1 inRange]
    rfl
  | single factor ih => exact ih h
  | times left right ihLeft ihRight =>
    obtain ⟨product, foundLeft, h⟩ := Option.bind_eq_some_iff.1 h
    obtain ⟨factor, foundRight, h⟩ := Option.bind_eq_some_iff.1 h
    rw [PhysicalUnit.measure_mul h, ihLeft foundLeft, ihRight foundRight]
    rfl
  | per left right ihLeft ihRight =>
    obtain ⟨product, foundLeft, h⟩ := Option.bind_eq_some_iff.1 h
    obtain ⟨factor, foundRight, h⟩ := Option.bind_eq_some_iff.1 h
    rw [PhysicalUnit.measure_div h, ihLeft foundLeft, ihRight foundRight]
    rfl

/-- The spelling of a phrase without blanks and with a middle dot for every product. -/
def written {category : Category} : Phrase category → List Char
  | .group inner => '(' :: (inner.written ++ [')'])
  | .one => ['1']
  | .name letters => letters
  | .plain base => base.written
  | .raised base sign digits => base.written ++ '^' :: (sign.spelling ++ digits)
  | .single factor => factor.written
  | .times left right => left.written ++ '·' :: right.written
  | .per left right => left.written ++ '/' :: right.written

/-- A phrase whose names are in the catalog and whose powers exist whenever their bases do. Only a product
or a quotient in it can overflow. -/
def Settled (catalog : Catalog) {category : Category} : Phrase category → Prop
  | .group inner => inner.Settled catalog
  | .one => True
  | .name letters =>
    letters ≠ [] ∧ (∀ c ∈ letters, isNameChar c = true) ∧ (catalog.find? (String.ofList letters)).isSome
  | .plain base => base.Settled catalog
  | .raised base sign digits =>
    base.Settled catalog ∧ digits ≠ [] ∧ (∀ c ∈ digits, c.isDigit = true) ∧
      ∀ unit, base.value? catalog = some unit →
        ((Exponent.ofInt? (sign.apply (Decimal.digitsValue digits))).bind unit.pow?).isSome
  | .single factor => factor.Settled catalog
  | .times left right => left.Settled catalog ∧ right.Settled catalog
  | .per left right => left.Settled catalog ∧ right.Settled catalog

theorem Settled.spells {category : Category} {phrase : Phrase category} (settled : phrase.Settled catalog) :
    Spells phrase phrase.written := by
  induction phrase with
  | group inner ih => exact .group .nil (ih settled) .nil
  | one => exact .one .nil .nil
  | name letters =>
    obtain ⟨nonempty, isName, _⟩ := settled
    exact .name_tight nonempty isName
  | plain base ih => exact .plain (ih settled)
  | raised base sign digits ih =>
    obtain ⟨settled, nonempty, isDigit, _⟩ := settled
    exact (ih settled).raised_tight nonempty isDigit
  | single factor ih => exact .single (ih settled)
  | times left right ihLeft ihRight => exact .times (ihLeft settled.1) (.inr rfl) (ihRight settled.2)
  | per left right ihLeft ihRight => exact .per (ihLeft settled.1) (ihRight settled.2)

/-- A phrase is written without blanks. -/
theorem Settled.not_blank {category : Category} {phrase : Phrase category}
    (settled : phrase.Settled catalog) : ∀ c ∈ phrase.written, Text.isBlank c = false := by
  induction phrase with
  | group inner ih =>
    have inside := ih settled
    simp only [written, List.forall_mem_cons, List.forall_mem_append]
    exact ⟨by decide, inside, by decide, by simp⟩
  | one =>
    intro c member
    cases List.mem_singleton.1 member
    decide
  | name letters => exact fun c member => isBlank_of_isNameChar (settled.2.1 c member)
  | plain base ih => exact ih settled
  | raised base sign digits ih =>
    obtain ⟨settledBase, _, isDigit, _⟩ := settled
    have signs : ∀ c ∈ sign.spelling, Text.isBlank c = false := sign.forall_mem_spelling (by decide) (by decide)
    have exponent : ∀ c ∈ digits, Text.isBlank c = false :=
      fun c member => Text.isBlank_of_isDigit (isDigit c member)
    simp only [written, List.forall_mem_cons, List.forall_mem_append]
    exact ⟨ih settledBase, by decide, signs, exponent⟩
  | single factor ih => exact ih settled
  | times left right ihLeft ihRight | per left right ihLeft ihRight =>
    simp only [written, List.forall_mem_cons, List.forall_mem_append]
    exact ⟨ihLeft settled.1, by decide, ihRight settled.2⟩

end Phrase

theorem bind_eq_error {α β : Type} {first : Except UnitError α} {next : α → Except UnitError β}
    {error : UnitError} :
    (first >>= next) = .error error ↔
      first = .error error ∨ ∃ value, first = .ok value ∧ next value = .error error := by
  cases first with
  | error other => simp
  | ok value => simp

theorem combined_eq_error {pending : Pending} {power : PhysicalUnit} {error : UnitError}
    (h : combined pending power = .error error) : error = .exponentOverflow := by
  simp only [combined] at h
  split at h
  · cases h
  · cases h
    rfl

/-- The evaluation of a settled phrase fails in one way only. -/
theorem Phrase.Settled.error_eq {category : Category} {phrase : Phrase category}
    (settled : phrase.Settled catalog) {error : UnitError} (h : phrase.evaluate catalog = .error error) :
    error = .exponentOverflow := by
  induction phrase with
  | group inner ih => exact ih settled h
  | one => cases h
  | name letters =>
    obtain ⟨unit, found⟩ := Option.isSome_iff_exists.1 settled.2.2
    have evaluated : named catalog (String.ofList letters) = .ok unit := named_eq_ok.2 found
    rw [Phrase.evaluate, evaluated] at h
    cases h
  | plain base ih => exact ih settled h
  | raised base sign digits ih =>
    obtain ⟨settledBase, nonempty, isDigit, exists_power⟩ := settled
    rcases bind_eq_error.1 h with failed | ⟨unit, evaluated, failed⟩
    · exact ih settledBase failed
    · have value := settledBase.spells.evaluate_eq_ok_iff.1 evaluated
      obtain ⟨power, made⟩ := Option.isSome_iff_exists.1 (exists_power unit value)
      rw [← exponent?_spelling sign nonempty isDigit] at made
      have applied := raised_eq_ok.2 (Option.bind_eq_some_iff.1 made)
      rw [applied] at failed
      cases failed
  | single factor ih => exact ih settled h
  | times left right ihLeft ihRight | per left right ihLeft ihRight =>
    rcases bind_eq_error.1 h with failed | ⟨product, _, h⟩
    · exact ihLeft settled.1 failed
    · rcases bind_eq_error.1 h with failed | ⟨factor, _, h⟩
      · exact ihRight settled.2 failed
      · exact combined_eq_error h

/-- A settled phrase is read as it is written. -/
theorem Phrase.Settled.parse_eq {phrase : Phrase .product} (settled : phrase.Settled catalog) :
    catalog.parse (String.ofList phrase.written) = phrase.evaluate catalog := by
  refine Catalog.parse_of_spells ?_
  rw [String.toList_ofList]
  exact settled.spells

/-! ### Writing phrases

A text that spells a settled phrase is extended as the symbols of units are. -/

/-- The text is the spelling of a settled phrase with a certain measure. -/
def Writes (catalog : Catalog) (category : Category) (text : List Char) (measure : Measure) : Prop :=
  ∃ phrase : Phrase category, phrase.written = text ∧ phrase.Settled catalog ∧
    phrase.measure catalog = measure

/-- A text in parentheses if it contains one of the separators. -/
def grouped (separators text : List Char) : List Char :=
  if text.any fun c => separators.contains c then '(' :: (text ++ [')']) else text

theorem toList_group (separators : List Char) (symbol : String) :
    (PhysicalUnit.group separators symbol).toList = grouped separators symbol.toList := by
  unfold PhysicalUnit.group grouped
  split <;> simp

namespace Phrase

/-- The product of two products, regrouped to the left. -/
def append (left : Phrase .product) : Phrase .product → Phrase .product
  | .single factor => .times left factor
  | .times first factor => .times (append left first) factor
  | .per first factor => .per (append left first) factor

theorem written_append (left : Phrase .product) :
    ∀ right : Phrase .product, (left.append right).written = left.written ++ '·' :: right.written
  | .single factor => by simp only [append, written]
  | .times first factor => by simp [append, written, written_append left first]
  | .per first factor => by simp [append, written, written_append left first]

theorem settled_append {left : Phrase .product} (settled : left.Settled catalog) :
    ∀ right : Phrase .product, right.Settled catalog → (left.append right).Settled catalog
  | .single factor, ends => by
    simp only [append, Settled]
    exact ⟨settled, ends⟩
  | .times first factor, ends => by
    simp only [append, Settled]
    exact ⟨settled_append settled first ends.1, ends.2⟩
  | .per first factor, ends => by
    simp only [append, Settled]
    exact ⟨settled_append settled first ends.1, ends.2⟩

theorem measure_append (left : Phrase .product) :
    ∀ right : Phrase .product,
      (left.append right).measure catalog = left.measure catalog * right.measure catalog
  | .single factor => by simp only [append, measure]
  | .times first factor => by simp only [append, measure, measure_append left first, mul_assoc]
  | .per first factor => by simp only [append, measure, measure_append left first, mul_div_assoc]

end Phrase

namespace Writes

variable {text other : List Char} {measure otherMeasure : Measure}

theorem ne_nil (writes : Writes catalog .product text measure) : text ≠ [] := by
  obtain ⟨phrase, rfl, settled, _⟩ := writes
  intro empty
  have notBlank := settled.spells.not_blank
  rw [empty] at notBlank
  exact notBlank .nil

theorem not_blank (writes : Writes catalog .product text measure) : ∀ c ∈ text, Text.isBlank c = false := by
  obtain ⟨phrase, rfl, settled, _⟩ := writes
  exact settled.not_blank

theorem isEmpty_eq {symbol : String} (writes : Writes catalog .product symbol.toList measure) :
    symbol.isEmpty = false := by
  have nonempty := writes.ne_nil
  simpa [String.isEmpty_iff] using nonempty

theorem group (writes : Writes catalog .product text measure) :
    Writes catalog .atom ('(' :: (text ++ [')'])) measure := by
  obtain ⟨phrase, rfl, settled, same⟩ := writes
  exact ⟨.group phrase, rfl, settled, same⟩

theorem plain (writes : Writes catalog .atom text measure) : Writes catalog .power text measure := by
  obtain ⟨phrase, rfl, settled, same⟩ := writes
  exact ⟨.plain phrase, rfl, settled, same⟩

theorem single (writes : Writes catalog .power text measure) : Writes catalog .product text measure := by
  obtain ⟨phrase, rfl, settled, same⟩ := writes
  exact ⟨.single phrase, rfl, settled, same⟩

theorem one : Writes catalog .product ['1'] 1 := ⟨.single (.plain .one), rfl, trivial, rfl⟩

theorem append (left : Writes catalog .product text measure)
    (right : Writes catalog .product other otherMeasure) :
    Writes catalog .product (text ++ '·' :: other) (measure * otherMeasure) := by
  obtain ⟨left, rfl, settledLeft, rfl⟩ := left
  obtain ⟨right, rfl, settledRight, rfl⟩ := right
  exact ⟨left.append right, left.written_append right, Phrase.settled_append settledLeft right settledRight,
    left.measure_append right⟩

theorem per (left : Writes catalog .product text measure)
    (right : Writes catalog .power other otherMeasure) :
    Writes catalog .product (text ++ '/' :: other) (measure / otherMeasure) := by
  obtain ⟨left, rfl, settledLeft, rfl⟩ := left
  obtain ⟨right, rfl, settledRight, rfl⟩ := right
  exact ⟨.per left right, rfl, ⟨settledLeft, settledRight⟩, rfl⟩

/-- A text without operators is a power. -/
theorem power (writes : Writes catalog .product text measure)
    (noOperator : (text.any fun c => ['·', '/'].contains c) = false) :
    Writes catalog .power text measure := by
  obtain ⟨phrase, rfl, settled, rfl⟩ := writes
  cases phrase with
  | single factor => exact ⟨factor, rfl, settled, rfl⟩
  | times left right => simp [Phrase.written] at noOperator
  | per left right => simp [Phrase.written] at noOperator

/-- A power without an exponent is an atom. -/
theorem atom (writes : Writes catalog .power text measure)
    (noExponent : (text.any fun c => ['^'].contains c) = false) : Writes catalog .atom text measure := by
  obtain ⟨phrase, rfl, settled, rfl⟩ := writes
  cases phrase with
  | plain base => exact ⟨base, rfl, settled, rfl⟩
  | raised base sign digits => simp [Phrase.written] at noExponent

theorem grouped_product (writes : Writes catalog .product text measure) (separators : List Char) :
    Writes catalog .product (grouped separators text) measure := by
  unfold grouped
  split
  · exact writes.group.plain.single
  · exact writes

theorem grouped_power (writes : Writes catalog .product text measure) :
    Writes catalog .power (grouped ['·', '/'] text) measure := by
  unfold grouped
  split
  · exact writes.group.plain
  · rename_i free
    exact writes.power (by simpa using free)

theorem grouped_atom (writes : Writes catalog .product text measure) :
    Writes catalog .atom (grouped ['·', '/', '^'] text) measure := by
  unfold grouped
  split
  · exact writes.group
  · rename_i free
    have noOperator : (text.any fun c => ['·', '/'].contains c) = false := by
      rw [List.any_eq_false]
      exact fun c member found => free (List.any_eq_true.2 ⟨c, member, by simp_all⟩)
    have noExponent : (text.any fun c => ['^'].contains c) = false := by
      rw [List.any_eq_false]
      exact fun c member found => free (List.any_eq_true.2 ⟨c, member, by simp_all⟩)
    exact (writes.power noOperator).atom noExponent

/-- A base that some unit of its measure can be raised from is raised in writing. -/
theorem raised {unit power : PhysicalUnit} {exponent : Exponent}
    (writes : Writes catalog .atom text unit.measure) (made : unit.pow? exponent = some power) :
    Writes catalog .power (text ++ '^' :: (Decimal.intText exponent.toInt).toList)
      (unit.measure ^ exponent.toInt) := by
  obtain ⟨base, rfl, settled, same⟩ := writes
  obtain ⟨sign, digits, spelled, nonempty, isDigit, value⟩ := Decimal.intText_spelled exponent.toInt
  have inRange : Exponent.ofInt? (sign.apply (Decimal.digitsValue digits)) = some exponent :=
    Exponent.ofInt?_eq_some_iff.2 value.symm
  refine ⟨.raised base sign digits, ?_, ?_, ?_⟩
  · simp only [Phrase.written, spelled]
  · refine ⟨settled, nonempty, isDigit, fun found value => ?_⟩
    have measures : found.measure = unit.measure := (Phrase.measure_value value).trans same
    rw [inRange, Option.bind_some, PhysicalUnit.pow?_isSome_congr measures, made]
    rfl
  · simp only [Phrase.measure, value, same]

/-- Blanks in front make no difference to how such a text is read. -/
theorem parse_blanks_append {blanks : List Char} (writes : Writes catalog .product text measure)
    (blank : Blank blanks) :
    catalog.parse (String.ofList (blanks ++ text)) = catalog.parse (String.ofList text) := by
  obtain ⟨phrase, rfl, settled, -⟩ := writes
  have spelled : Spells phrase (String.ofList (blanks ++ phrase.written)).toList := by
    rw [String.toList_ofList]
    exact settled.spells.blanks_append blank
  rw [Catalog.parse_of_spells spelled, settled.parse_eq]

/-- A text that is written so is read as a unit of the measure, unless a dimension overflows on the way. -/
theorem parse_eq (writes : Writes catalog .product text measure) :
    (∃ unit, catalog.parse (String.ofList text) = .ok unit ∧ unit.measure = measure) ∨
      catalog.parse (String.ofList text) = .error .exponentOverflow := by
  obtain ⟨phrase, rfl, settled, rfl⟩ := writes
  rw [settled.parse_eq]
  cases evaluated : phrase.evaluate catalog with
  | error error => exact .inr (congrArg Except.error (settled.error_eq evaluated))
  | ok unit =>
    have value := settled.spells.evaluate_eq_ok_iff.1 evaluated
    exact .inl ⟨unit, rfl, Phrase.measure_value value⟩

end Writes

end UnitExpression

/-! ### Derived units -/

open UnitExpression

/-- The units that products, quotients, reciprocals and powers make from the units of a catalog. -/
inductive Catalog.Derives (catalog : Catalog) : PhysicalUnit → Prop where
  | named {name : String} {unit : PhysicalUnit} : catalog.find? name = some unit → catalog.Derives unit
  | mul {a b product : PhysicalUnit} :
      catalog.Derives a → catalog.Derives b → a.mul? b = some product → catalog.Derives product
  | div {a b quotient : PhysicalUnit} :
      catalog.Derives a → catalog.Derives b → a.div? b = some quotient → catalog.Derives quotient
  | inv {a reciprocal : PhysicalUnit} :
      catalog.Derives a → a.inv? = some reciprocal → catalog.Derives reciprocal
  | pow {a power : PhysicalUnit} {exponent : Exponent} :
      catalog.Derives a → a.pow? exponent = some power → catalog.Derives power

namespace PhysicalUnit

variable {catalog : Catalog}

/-- A unit without a symbol is the plain number one, and any other symbol writes the measure of its unit. -/
def Presented (catalog : Catalog) (unit : PhysicalUnit) : Prop :=
  (unit.symbol = "" ∧ unit.measure = 1) ∨ Writes catalog .product unit.symbol.toList unit.measure

theorem symbol_mul {a b product : PhysicalUnit} (h : a.mul? b = some product) :
    product.symbol = productSymbol a.symbol b.symbol := by
  obtain ⟨dims, _, made⟩ := Option.bind_eq_some_iff.1 h
  cases made
  rfl

theorem symbol_div {a b quotient : PhysicalUnit} (h : a.div? b = some quotient) :
    quotient.symbol = quotientSymbol a.symbol b.symbol := by
  obtain ⟨dims, _, made⟩ := Option.bind_eq_some_iff.1 h
  cases made
  rfl

theorem symbol_inv {a reciprocal : PhysicalUnit} (h : a.inv? = some reciprocal) :
    reciprocal.symbol = reciprocalSymbol a.symbol := by
  obtain ⟨dims, _, made⟩ := Option.bind_eq_some_iff.1 h
  cases made
  rfl

theorem symbol_pow {a power : PhysicalUnit} {exponent : Exponent} (h : a.pow? exponent = some power) :
    power.symbol =
      if exponent.toInt = 0 then ""
      else if exponent.toInt = 1 then a.symbol else powerSymbol a.symbol exponent.toInt := by
  unfold pow? at h
  split at h
  · rename_i zero
    cases h
    rw [if_pos zero]
    rfl
  · rename_i nonzero
    rw [if_neg nonzero]
    split at h
    · rename_i one
      cases h
      rw [if_pos one]
    · rename_i nonunit
      obtain ⟨dims, _, made⟩ := Option.bind_eq_some_iff.1 h
      cases made
      rw [if_neg nonunit]

namespace Presented

theorem mul {a b product : PhysicalUnit} (ha : Presented catalog a) (hb : Presented catalog b)
    (h : a.mul? b = some product) : Presented catalog product := by
  unfold Presented
  rw [symbol_mul h, measure_mul h]
  rcases ha with ⟨emptyA, oneA⟩ | writesA
  · rw [emptyA, oneA, one_mul]
    exact hb
  · have someA := writesA.isEmpty_eq
    rcases hb with ⟨emptyB, oneB⟩ | writesB
    · right
      simpa [productSymbol, someA, emptyB, oneB] using writesA
    · have someB := writesB.isEmpty_eq
      right
      simpa [productSymbol, someA, someB, toList_group] using (writesA.grouped_product ['/']).append writesB

theorem div {a b quotient : PhysicalUnit} (ha : Presented catalog a) (hb : Presented catalog b)
    (h : a.div? b = some quotient) : Presented catalog quotient := by
  unfold Presented
  rw [symbol_div h, measure_div h]
  rcases hb with ⟨emptyB, oneB⟩ | writesB
  · rw [emptyB, oneB, div_one]
    exact ha
  · have someB := writesB.isEmpty_eq
    rcases ha with ⟨emptyA, oneA⟩ | writesA
    · right
      simpa [quotientSymbol, emptyA, someB, oneA, toList_group] using Writes.one.per writesB.grouped_power
    · have someA := writesA.isEmpty_eq
      right
      simpa [quotientSymbol, someA, someB, toList_group] using writesA.per writesB.grouped_power

theorem inv {a reciprocal : PhysicalUnit} (ha : Presented catalog a) (h : a.inv? = some reciprocal) :
    Presented catalog reciprocal := by
  unfold Presented
  rw [symbol_inv h, measure_inv h]
  rcases ha with ⟨empty, one⟩ | writes
  · left
    simp [reciprocalSymbol, empty, one]
  · have nonempty := writes.isEmpty_eq
    right
    simpa [reciprocalSymbol, nonempty, toList_group] using Writes.one.per writes.grouped_power

theorem pow {a power : PhysicalUnit} {exponent : Exponent} (ha : Presented catalog a)
    (h : a.pow? exponent = some power) : Presented catalog power := by
  have symbol := symbol_pow h
  have measures := measure_pow h
  split at symbol
  · rename_i zero
    exact .inl ⟨symbol, by rw [measures, zero, zpow_zero]⟩
  · split at symbol
    · rename_i one
      unfold Presented
      rwa [symbol, measures, one, zpow_one]
    · unfold Presented
      rw [symbol, measures]
      rcases ha with ⟨empty, one⟩ | writes
      · left
        simp [powerSymbol, empty, one]
      · have nonempty := writes.isEmpty_eq
        right
        simpa [powerSymbol, nonempty, toList_group] using (writes.grouped_atom.raised h).single

/-- Every operation on units keeps to the rule. -/
theorem of_derives (regular : ∀ name unit, catalog.find? name = some unit → Presented catalog unit)
    {unit : PhysicalUnit} (derived : catalog.Derives unit) : Presented catalog unit := by
  induction derived with
  | named found => exact regular _ _ found
  | mul _ _ made ihA ihB => exact ihA.mul ihB made
  | div _ _ made ihA ihB => exact ihA.div ihB made
  | inv _ made ih => exact ih.inv made
  | pow _ made ih => exact ih.pow made

/-- A unit that a catalog has under its symbol keeps to the rule. -/
theorem of_symbol {unit : PhysicalUnit} (nonempty : unit.symbol ≠ "")
    (isName : ∀ c ∈ unit.symbol.toList, isNameChar c = true) (found : catalog.find? unit.symbol = some unit) :
    Presented catalog unit := by
  refine .inr ⟨.single (.plain (.name unit.symbol.toList)), rfl, ⟨?_, isName, ?_⟩, ?_⟩
  · simpa using nonempty
  · rw [String.ofList_toList, found]
    rfl
  · simp [Phrase.measure, found]

/-- A standard name is the symbol of its unit, but for the name of the plain number. -/
theorem standard_symbol {name : String} {unit : PhysicalUnit} (found : Catalog.standard.find? name = some unit) :
    (unit.symbol = "" ∧ unit.measure = 1) ∨
      (unit.symbol ≠ "" ∧ (∀ c ∈ unit.symbol.toList, isNameChar c = true) ∧
        Catalog.standard.find? unit.symbol = some unit) := by
  have names : (Catalog.standard.entries.all fun entry =>
      entry.2.symbol == "" && entry.2.equivalent one ||
        entry.1 == entry.2.symbol && !entry.1.isEmpty && entry.1.toList.all isNameChar) = true := by
    decide +kernel
  simp only [List.all_eq_true, Bool.or_eq_true, Bool.and_eq_true, beq_iff_eq, Bool.not_eq_true'] at names
  obtain ⟨key, keyed⟩ : ∃ key, Catalog.standard.entries.lookup key = some unit := ⟨_, found⟩
  have entry : (key, unit) ∈ Catalog.standard.entries := by
    obtain ⟨before, after, split, _⟩ := List.lookup_eq_some_iff.1 keyed
    simp [split]
  rcases names _ entry with ⟨empty, plain⟩ | ⟨⟨same, nonempty⟩, isName⟩
  · exact .inl ⟨empty, (equivalent_iff_measure.1 plain).trans measure_one⟩
  · simp only at same nonempty isName
    subst same
    exact .inr ⟨by simpa using nonempty, isName, by simpa [Catalog.find?, nonempty] using keyed⟩

theorem of_standard (name : String) (unit : PhysicalUnit) (found : Catalog.standard.find? name = some unit) :
    Presented .standard unit := by
  rcases standard_symbol found with plain | ⟨nonempty, isName, looked⟩
  · exact .inl plain
  · exact of_symbol nonempty isName looked

/-- A unit that keeps to the rule is shown by its symbol. -/
theorem text_eq_symbol {unit : PhysicalUnit} (presented : Presented catalog unit) :
    unit.text = unit.symbol := by
  rcases presented with ⟨empty, one⟩ | writes
  · have plain : unit.equivalent .one = true := equivalent_iff_measure.2 (one.trans measure_one.symm)
    simp only [equivalent, Bool.and_eq_true, decide_eq_true_eq] at plain
    have dimensionless : unit.dims.isDimensionless = true := by
      rw [plain.1]
      rfl
    simp [text, dimensionless]
  · have nonempty := writes.isEmpty_eq
    simp [text, nonempty]

end Presented

end PhysicalUnit

end Circuitry
