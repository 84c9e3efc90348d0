import Circuitry.Dimension.Exponent

/-!
# Dimensions

The dimensions of a quantity are one exponent for each of six base dimensions. Products, quotients and
powers of dimensions add, subtract and scale the exponents; they exist only if every exponent of the
result is in range, which `ofInts?` decides for all of them.
-/

set_option autoImplicit false

namespace Circuitry

/-- The base dimensions, in the order in which they are written. Angles are kept apart from ratios. -/
inductive BaseDimension where
  | mass
  | length
  | angle
  | time
  | current
  | luminous
  deriving DecidableEq, Repr

/-- All base dimensions, in the order in which they are written. -/
def BaseDimension.all : List BaseDimension := [.mass, .length, .angle, .time, .current, .luminous]

/-- The symbol of the base unit of a base dimension. -/
def BaseDimension.symbol : BaseDimension → String
  | .mass => "kg"
  | .length => "m"
  | .angle => "rad"
  | .time => "s"
  | .current => "A"
  | .luminous => "cd"

/-- One exponent for each base dimension. -/
structure Dimensions where
  mass : Exponent
  length : Exponent
  angle : Exponent
  time : Exponent
  current : Exponent
  luminous : Exponent
  deriving DecidableEq, Repr

namespace Dimensions

/-- The power of one base dimension. -/
def power (dims : Dimensions) : BaseDimension → Int
  | .mass => dims.mass.toInt
  | .length => dims.length.toInt
  | .angle => dims.angle.toInt
  | .time => dims.time.toInt
  | .current => dims.current.toInt
  | .luminous => dims.luminous.toInt

/-- The dimensions with given powers, if all of them are in range. -/
def ofInts? (powers : BaseDimension → Int) : Option Dimensions := do
  return {
    mass := ← Exponent.ofInt? (powers .mass)
    length := ← Exponent.ofInt? (powers .length)
    angle := ← Exponent.ofInt? (powers .angle)
    time := ← Exponent.ofInt? (powers .time)
    current := ← Exponent.ofInt? (powers .current)
    luminous := ← Exponent.ofInt? (powers .luminous) }

/-- The dimensions of a ratio: every exponent is zero. -/
def dimensionless : Dimensions :=
  ⟨Exponent.zero, Exponent.zero, Exponent.zero, Exponent.zero, Exponent.zero, Exponent.zero⟩

/-- One base dimension raised to a power, the others left out. -/
def single (base : BaseDimension) (exponent : Exponent) : Dimensions :=
  { mass := if base = .mass then exponent else Exponent.zero
    length := if base = .length then exponent else Exponent.zero
    angle := if base = .angle then exponent else Exponent.zero
    time := if base = .time then exponent else Exponent.zero
    current := if base = .current then exponent else Exponent.zero
    luminous := if base = .luminous then exponent else Exponent.zero }

/-- Whether every exponent is zero. -/
def isDimensionless (dims : Dimensions) : Bool := dims = dimensionless

/-- The dimensions of a product. -/
def mul? (a b : Dimensions) : Option Dimensions := ofInts? fun base => a.power base + b.power base

/-- The dimensions of a quotient. -/
def div? (a b : Dimensions) : Option Dimensions := ofInts? fun base => a.power base - b.power base

/-- The dimensions of an integer power. -/
def pow? (a : Dimensions) (exponent : Exponent) : Option Dimensions :=
  ofInts? fun base => a.power base * exponent.toInt

/-- The dimensions of a reciprocal. -/
def inv? (a : Dimensions) : Option Dimensions := ofInts? fun base => -a.power base

theorem eq_of_power {a b : Dimensions} (h : ∀ base, a.power base = b.power base) : a = b := by
  have mass := Exponent.eq_of_toInt (h .mass)
  have length := Exponent.eq_of_toInt (h .length)
  have angle := Exponent.eq_of_toInt (h .angle)
  have time := Exponent.eq_of_toInt (h .time)
  have current := Exponent.eq_of_toInt (h .current)
  have luminous := Exponent.eq_of_toInt (h .luminous)
  cases a
  cases b
  simp_all

/-- Dimensions are given by their powers, whatever way the powers were obtained. -/
theorem ofInts?_eq_some_iff {powers : BaseDimension → Int} {dims : Dimensions} :
    ofInts? powers = some dims ↔ ∀ base, dims.power base = powers base := by
  constructor
  · intro h base
    simp only [ofInts?, Option.bind_eq_bind, Option.pure_def, Option.bind_eq_some_iff,
      Option.some.injEq, Exponent.ofInt?_eq_some_iff] at h
    obtain ⟨mass, hm, length, hl, angle, ha, time, ht, current, hc, luminous, hu, rfl⟩ := h
    cases base <;> assumption
  · intro h
    have read (base : BaseDimension) (e : Exponent) (he : e.toInt = dims.power base) :
        Exponent.ofInt? (powers base) = some e := Exponent.ofInt?_eq_some_iff.2 (he.trans (h base))
    simp [ofInts?, read .mass dims.mass rfl, read .length dims.length rfl, read .angle dims.angle rfl,
      read .time dims.time rfl, read .current dims.current rfl, read .luminous dims.luminous rfl]

theorem power_inRange (dims : Dimensions) (base : BaseDimension) :
    -128 ≤ dims.power base ∧ dims.power base ≤ 127 := by
  cases base <;> exact ⟨Exponent.lower _, Exponent.upper _⟩

/-- There are no dimensions with given powers exactly if one of the powers is out of range. -/
theorem ofInts?_eq_none_iff {powers : BaseDimension → Int} :
    ofInts? powers = none ↔ ∃ base, powers base < -128 ∨ 127 < powers base := by
  constructor
  · intro missing
    refine Classical.byContradiction fun inRange => ?_
    have read (base : BaseDimension) : ∃ e, Exponent.ofInt? (powers base) = some e :=
      Option.ne_none_iff_exists'.1 fun none => inRange ⟨base, Exponent.ofInt?_eq_none_iff.1 none⟩
    obtain ⟨mass, readMass⟩ := read .mass
    obtain ⟨length, readLength⟩ := read .length
    obtain ⟨angle, readAngle⟩ := read .angle
    obtain ⟨time, readTime⟩ := read .time
    obtain ⟨current, readCurrent⟩ := read .current
    obtain ⟨luminous, readLuminous⟩ := read .luminous
    simp [ofInts?, readMass, readLength, readAngle, readTime, readCurrent, readLuminous] at missing
  · rintro ⟨base, outside⟩
    refine Option.eq_none_iff_forall_ne_some.2 fun dims found => ?_
    have power := ofInts?_eq_some_iff.1 found base
    have inRange := dims.power_inRange base
    omega

end Dimensions

end Circuitry
