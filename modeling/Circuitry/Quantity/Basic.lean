import Circuitry.Decimal.Rendering
import Circuitry.PhysicalUnit.Expression

/-!
# Quantities

A quantity is an exact magnitude in a unit. What it measures is its base value, the magnitude in coherent
units: quantities are compared by dimensions and base value, whatever units they are written in. Sums and
differences keep the unit of the left operand.
-/

set_option autoImplicit false

namespace Circuitry

/-- A magnitude in a unit. -/
structure Quantity where
  magnitude : Rat
  unit : PhysicalUnit

/-- Why an operation on quantities fails. -/
inductive QuantityError where
  /-- The divisor is zero. -/
  | divisionByZero
  /-- An exponent of the result is out of range. -/
  | dimensionOverflow
  /-- A quantity is converted to a unit of other dimensions. -/
  | dimensionMismatch (source target : Dimensions)
  /-- A magnitude is no decimal literal. -/
  | invalidNumber (text : String)
  /-- A unit is no unit expression. -/
  | unit (error : UnitError)
  deriving DecidableEq, Repr

/-- The error in words. -/
def QuantityError.message : QuantityError → String
  | .divisionByZero => "division by zero"
  | .dimensionOverflow => "dimension exponent out of range"
  | .dimensionMismatch source target => "cannot convert " ++ source.text ++ " to " ++ target.text
  | .invalidNumber text => "invalid number '" ++ text ++ "'"
  | .unit error => error.message

namespace Quantity

/-- A plain number. -/
def ofNumber (magnitude : Rat) : Quantity := ⟨magnitude, .one⟩

/-- The dimensions of the unit. -/
def dims (q : Quantity) : Dimensions := q.unit.dims

/-- The magnitude in the coherent unit. -/
def base (q : Quantity) : Rat := q.magnitude * q.unit.scale

/-- Whether the magnitude is zero. -/
def isZero (q : Quantity) : Bool := q.magnitude = 0

/-- The magnitude in another unit of the same dimensions. -/
def magnitudeIn (q : Quantity) (target : PhysicalUnit) : Rat :=
  q.magnitude * q.unit.conversionFactor target

/-- The same quantity in another unit, which must have the same dimensions. -/
def convert (q : Quantity) (target : PhysicalUnit) : Except QuantityError Quantity :=
  if q.dims = target.dims then .ok ⟨q.magnitudeIn target, target⟩
  else .error (.dimensionMismatch q.dims target.dims)

/-- The sum of quantities of the same dimensions. -/
def add (a b : Quantity) : Quantity := ⟨a.magnitude + b.magnitudeIn a.unit, a.unit⟩

/-- The difference of quantities of the same dimensions. -/
def sub (a b : Quantity) : Quantity := ⟨a.magnitude - b.magnitudeIn a.unit, a.unit⟩

/-- The product. -/
def mul (a b : Quantity) : Except QuantityError Quantity :=
  match a.unit.mul? b.unit with
  | some unit => .ok ⟨a.magnitude * b.magnitude, unit⟩
  | none => .error .dimensionOverflow

/-- The quotient. A zero divisor is refused before the dimensions are looked at. -/
def div (a b : Quantity) : Except QuantityError Quantity :=
  if b.isZero then .error .divisionByZero
  else
    match a.unit.div? b.unit with
    | some unit => .ok ⟨a.magnitude / b.magnitude, unit⟩
    | none => .error .dimensionOverflow

/-- The reciprocal. -/
def inv (a : Quantity) : Except QuantityError Quantity :=
  if a.isZero then .error .divisionByZero
  else
    match a.unit.inv? with
    | some unit => .ok ⟨a.magnitude⁻¹, unit⟩
    | none => .error .dimensionOverflow

/-- The opposite. -/
def neg (a : Quantity) : Quantity := ⟨-a.magnitude, a.unit⟩

/-- The absolute value. -/
def abs (a : Quantity) : Quantity := if a.magnitude < 0 then a.neg else a

/-- The order of two base values. -/
def orderOf (a b : Rat) : Ordering := if a < b then .lt else if b < a then .gt else .eq

/-- The order of quantities of the same dimensions. -/
def compare? (a b : Quantity) : Option Ordering :=
  if a.dims = b.dims then some (orderOf a.base b.base) else none

/-- Whether two quantities are the same amount of the same thing. -/
def equivalent (a b : Quantity) : Bool := a.dims = b.dims && a.base = b.base

/-! ### Text -/

/-- The number of fractional digits shown unless asked otherwise. -/
def displayDigits : Nat := 12

/-- The magnitude in decimal. -/
def magnitudeText (q : Quantity) (digits : Nat) : String := Decimal.render q.magnitude digits

/-- The magnitude, followed by the unit unless that has no text. -/
def render (q : Quantity) (digits : Nat) : String :=
  let unit := q.unit.text
  if unit.isEmpty then q.magnitudeText digits else q.magnitudeText digits ++ " " ++ unit

/-- The quantity with the usual number of digits. -/
def text (q : Quantity) : String := q.render displayDigits

end Quantity

end Circuitry
