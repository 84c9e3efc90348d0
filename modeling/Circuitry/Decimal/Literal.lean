import Circuitry.Text.Blank
import Circuitry.Decimal.Numeral

/-!
# Decimal literals

A literal has an optional sign, digits with at most one point among them, and an optional exponent.
Blanks around it and underscores anywhere in it are ignored. Its value is an exact rational.
-/

set_option autoImplicit false

namespace Circuitry.Decimal

/-- The largest written exponent, in either direction. -/
def maxExponent : Nat := 4096

/-- Reads a written exponent within `maxExponent`. -/
def readExponent? (cs : List Char) : Option Int :=
  (readInt? cs).filter fun e => e.natAbs ≤ maxExponent

/-- Whether a character opens the exponent of a literal. -/
def isExponentMark (c : Char) : Bool := c = 'e' || c = 'E'

/-- The power of ten that follows a mantissa: zero where nothing does, and otherwise what stands behind a mark. -/
def readPower? : List Char → Option Int
  | [] => some 0
  | _ :: exponent => readExponent? exponent

/-- An integer that 32 bits hold. -/
def int32? (n : Int) : Option Int := if -2147483648 ≤ n ∧ n ≤ 2147483647 then some n else none

/-- The power of ten that the last digit of a literal counts. It must fit 32 bits, and so must the number of
fractional digits. -/
def lastPlace? (power : Int) (places : Nat) : Option Int := do
  let places ← int32? places
  int32? (power - places)

/-- The number that digits denote when the last of them counts ten to the power `place`. -/
def scaled (digits : List Char) (place : Int) : Rat := (digitsValue digits : Rat) * (10 : Rat) ^ place

/-- Reads digits with at most one point, of which at least one digit must be present. -/
def readMantissa? (cs : List Char) : Option (List Char × List Char) :=
  let (whole, rest) := cs.span (· ≠ '.')
  let fraction := rest.drop 1
  if (whole.isEmpty && fraction.isEmpty) || !whole.all Char.isDigit || !fraction.all Char.isDigit then
    none
  else some (whole, fraction)

/-- Reads an unsigned literal. -/
def readUnsigned? (cs : List Char) : Option Rat := do
  let (mantissa, rest) := cs.span (!isExponentMark ·)
  let power ← readPower? rest
  let (whole, fraction) ← readMantissa? mantissa
  let place ← lastPlace? power fraction.length
  return scaled (whole ++ fraction) place

/-- The value of a decimal literal, if the text is one. -/
def parse? (text : String) : Option Rat := do
  let (negative, unsigned) := splitSign ((Text.trim text.toList).filter (· ≠ '_'))
  let value ← readUnsigned? unsigned
  return if negative then -value else value

end Circuitry.Decimal
