import Circuitry.Decimal.Literal
import Circuitry.Quantity.Basic

/-!
# Quantity literals

A quantity literal is a decimal magnitude followed by a unit expression, or by nothing for a plain number.
The magnitude is the longest start of the text whose characters can belong to a decimal literal.
-/

set_option autoImplicit false

namespace Circuitry.Quantity

/-- Whether a character is a sign. -/
def isSign (c : Char) : Bool := c = '-' || c = '+'

/-- Whether `c` belongs to the magnitude, given the character before it and the one after it. A sign does
at the very start and after an exponent mark, and an exponent mark before a sign or a digit. -/
def inMagnitude (before : Option Char) (c : Char) (after : Option Char) : Bool :=
  c.isDigit || c = '.' || c = '_'
    || (isSign c && (before.isNone || before.any Decimal.isExponentMark))
    || (Decimal.isExponentMark c && after.any fun d => d.isDigit || isSign d)

/-- Splits a text, which `before` precedes, after its magnitude. -/
def splitMagnitude : Option Char → List Char → List Char × List Char
  | _, [] => ([], [])
  | before, c :: rest =>
    if inMagnitude before c rest.head? then
      let (magnitude, unit) := splitMagnitude (some c) rest
      (c :: magnitude, unit)
    else ([], c :: rest)

/-- The magnitude that a decimal literal denotes. A text that is none is reported as it was given. -/
def parseMagnitude (text : String) : Except QuantityError Rat :=
  match Decimal.parse? text with
  | some value => .ok value
  | none => .error (.invalidNumber text)

end Circuitry.Quantity

namespace Circuitry

/-- The quantity that a literal denotes, its unit read by a catalog. -/
def Catalog.parseQuantity (catalog : Catalog) (text : String) : Except QuantityError Quantity := do
  let (magnitude, unit) := Quantity.splitMagnitude none (Text.trim text.toList)
  let value ← Quantity.parseMagnitude (String.ofList magnitude)
  if unit.all Text.isBlank then .ok (Quantity.ofNumber value)
  else
    match catalog.parse (String.ofList unit) with
    | .ok parsed => .ok ⟨value, parsed⟩
    | .error error => .error (.unit error)

/-- The quantity that a literal denotes with standard units. -/
def Quantity.parse (text : String) : Except QuantityError Quantity := Catalog.standard.parseQuantity text

end Circuitry
