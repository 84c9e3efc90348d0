import Circuitry.Decimal.Power
import Circuitry.Dimension.Rendering

/-!
# Physical units

A unit has dimensions, a positive exact scale relative to the coherent unit of those dimensions, and a
symbol under which it is shown. The symbol has no part in what the unit is: two units are equivalent when
dimensions and scale agree.
-/

set_option autoImplicit false

namespace Circuitry

/-- A unit of measurement. -/
structure PhysicalUnit where
  symbol : String
  dims : Dimensions
  /-- The size of the unit, in coherent units of its dimensions. -/
  scale : Rat
  scale_pos : 0 < scale

namespace PhysicalUnit

/-- The unit with a given scale, if the scale is positive. -/
def ofScale? (symbol : String) (dims : Dimensions) (scale : Rat) : Option PhysicalUnit :=
  if h : 0 < scale then some ⟨symbol, dims, scale, h⟩ else none

/-- The unit of scale one. -/
def coherent (symbol : String) (dims : Dimensions) : PhysicalUnit := ⟨symbol, dims, 1, by decide⟩

/-- The plain number one as a unit, which has an empty symbol. -/
def one : PhysicalUnit := coherent "" .dimensionless

/-- The same unit under another symbol. -/
def withSymbol (unit : PhysicalUnit) (symbol : String) : PhysicalUnit := { unit with symbol }

/-- The unit scaled by a power of ten, under another symbol. -/
def scaledByTen (unit : PhysicalUnit) (symbol : String) (exponent : Int) : PhysicalUnit :=
  { symbol, dims := unit.dims, scale := unit.scale * Decimal.tenTo exponent
    scale_pos := Rat.mul_pos unit.scale_pos (Rat.zpow_pos (by decide)) }

/-- The factor that turns a magnitude in one unit into the magnitude in another. -/
def conversionFactor (source target : PhysicalUnit) : Rat := source.scale / target.scale

/-- Units are equivalent when they differ at most in the symbol. -/
def equivalent (a b : PhysicalUnit) : Bool := a.dims = b.dims && a.scale = b.scale

/-! ### Symbols of compound units -/

/-- A symbol in parentheses if it contains one of the separators. -/
def group (separators : List Char) (symbol : String) : String :=
  if symbol.toList.any fun c => separators.contains c then "(" ++ symbol ++ ")" else symbol

/-- The symbol of a product. A factor without a symbol leaves the other's as it is. -/
def productSymbol (a b : String) : String :=
  if a.isEmpty then b
  else if b.isEmpty then a
  else group ['/'] a ++ "·" ++ b

/-- The symbol of a reciprocal. -/
def reciprocalSymbol (a : String) : String :=
  if a.isEmpty then "" else "1/" ++ group ['·', '/'] a

/-- The symbol of a quotient. -/
def quotientSymbol (a b : String) : String :=
  if b.isEmpty then a
  else if a.isEmpty then "1/" ++ group ['·', '/'] b
  else a ++ "/" ++ group ['·', '/'] b

/-- The symbol of a power. -/
def powerSymbol (a : String) (exponent : Int) : String :=
  if a.isEmpty then "" else group ['·', '/', '^'] a ++ "^" ++ Decimal.intText exponent

/-! ### Compound units -/

/-- The product of two units. -/
def mul? (a b : PhysicalUnit) : Option PhysicalUnit := do
  let dims ← a.dims.mul? b.dims
  return ⟨productSymbol a.symbol b.symbol, dims, a.scale * b.scale, Rat.mul_pos a.scale_pos b.scale_pos⟩

/-- The quotient of two units. -/
def div? (a b : PhysicalUnit) : Option PhysicalUnit := do
  let dims ← a.dims.div? b.dims
  return ⟨quotientSymbol a.symbol b.symbol, dims, a.scale / b.scale, by
    rw [Rat.div_def]
    exact Rat.mul_pos a.scale_pos (Rat.inv_pos.2 b.scale_pos)⟩

/-- The reciprocal of a unit. -/
def inv? (a : PhysicalUnit) : Option PhysicalUnit := do
  let dims ← a.dims.inv?
  return ⟨reciprocalSymbol a.symbol, dims, a.scale⁻¹, Rat.inv_pos.2 a.scale_pos⟩

/-- An integer power of a unit. The power zero is the plain number one, and the power one is the unit
with its symbol unchanged. -/
def pow? (a : PhysicalUnit) (exponent : Exponent) : Option PhysicalUnit :=
  if exponent.toInt = 0 then some one
  else if exponent.toInt = 1 then some a
  else do
    let dims ← a.dims.pow? exponent
    return ⟨powerSymbol a.symbol exponent.toInt, dims, a.scale ^ exponent.toInt, Rat.zpow_pos a.scale_pos⟩

/-- The symbol if there is one, and otherwise the scale and the dimensions. -/
def text (unit : PhysicalUnit) : String :=
  if !unit.symbol.isEmpty || unit.dims.isDimensionless then unit.symbol
  else if unit.scale = 1 then unit.dims.text
  else Decimal.fractionText unit.scale ++ "·" ++ unit.dims.text

end PhysicalUnit

end Circuitry
