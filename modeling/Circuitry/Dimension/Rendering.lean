import Circuitry.Decimal.Numeral
import Circuitry.Dimension.Basic

/-!
# Dimensions in writing

Factors are joined by a middle dot, those with positive exponents first. An exponent of one is left out,
and dimensions without any factor are written `1`.
-/

set_option autoImplicit false

namespace Circuitry.Dimensions

/-- One factor with its exponent. -/
def factorText (symbol : String) (power : Int) : String :=
  if power = 1 then symbol else symbol ++ "^" ++ Decimal.intText power

/-- The base dimensions that occur, those with positive exponents first. -/
def factors (dims : Dimensions) : List BaseDimension :=
  BaseDimension.all.filter (fun base => 0 < dims.power base) ++
    BaseDimension.all.filter (fun base => dims.power base < 0)

/-- The dimensions as a product of powers of base units. -/
def text (dims : Dimensions) : String :=
  if dims.isDimensionless then "1"
  else "·".intercalate (dims.factors.map fun base => factorText base.symbol (dims.power base))

end Circuitry.Dimensions
