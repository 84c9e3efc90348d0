import Circuitry.PhysicalUnit.Catalog
import Circuitry.Text.Blank
import Circuitry.Text.Letter

/-!
# Unit expressions

A unit expression combines names with products (`*` or `·`), quotients (`/`, by the next power only) and
integer powers (`^`), and groups with parentheses; `1` is the plain number one. Blanks may stand between
tokens. The expression is read in one pass, a character at a time, and evaluated on the way: names are
looked up and powers are multiplied as soon as they are complete, so the first error met is the one
reported.
-/

set_option autoImplicit false

namespace Circuitry

/-- Why a text is not a unit expression. -/
inductive UnitError where
  /-- There is nothing but blanks. -/
  | empty
  /-- A name is not in the catalog; some names of the catalog are close to it. -/
  | unknownUnit (name : String) (suggestions : List String)
  /-- A character cannot stand where it does, `offset` bytes after the start. -/
  | unexpectedChar (found : Char) (offset : Nat)
  /-- The text ends where a unit or an exponent is required. -/
  | unexpectedEnd
  /-- What follows `^` is no exponent, or raises a dimension out of range. -/
  | invalidExponent (text : String)
  /-- A product or quotient has a dimension out of range. -/
  | exponentOverflow
  deriving DecidableEq, Repr

namespace UnitError

/-- The suggestions as the end of a message. -/
def didYouMean : List String → String
  | [] => ""
  | [only] => ", did you mean '" ++ only ++ "'?"
  | many => ", did you mean one of " ++ ", ".intercalate (many.map fun name => "'" ++ name ++ "'") ++ "?"

/-- The error in words. -/
def message : UnitError → String
  | .empty => "empty unit expression"
  | .unknownUnit name suggestions => "unknown unit '" ++ name ++ "'" ++ didYouMean suggestions
  | .unexpectedChar found offset =>
    "unexpected '" ++ String.singleton found ++ "' at offset " ++ Decimal.natText offset ++
      " in unit expression"
  | .unexpectedEnd => "unit expression ended unexpectedly"
  | .invalidExponent text => "invalid exponent '" ++ text ++ "'"
  | .exponentOverflow => "unit expression exceeds the dimension exponent range"

end UnitError

namespace UnitExpression

/-- What the next power is to be done with. -/
inductive Operation where
  | mul
  | div
  deriving DecidableEq, Repr

/-- The part of a product read so far that waits for its next power, if there is one. -/
abbrev Pending := Option (PhysicalUnit × Operation)

/-- Where reading stands in the innermost group. -/
inductive Stage where
  /-- A power must begin. -/
  | expecting
  /-- Inside a name, its characters in reverse. -/
  | naming (reversed : List Char)
  /-- After the base of a power, which an exponent may follow. -/
  | based (base : PhysicalUnit)
  /-- After `^`. -/
  | raising (base : PhysicalUnit)
  /-- Inside an exponent, its characters in reverse. -/
  | counting (base : PhysicalUnit) (reversed : List Char)
  /-- After a complete power, with the product up to it. -/
  | complete (product : PhysicalUnit)

/-- A reading: the products that wait outside each open parenthesis, innermost first, the product that
waits in the innermost group, and the stage there. -/
structure Reading where
  outer : List Pending
  pending : Pending
  stage : Stage

/-- The reading before the first character. -/
def Reading.start : Reading := ⟨[], none, .expecting⟩

/-- Letters and the percent sign make up names. -/
def isNameChar (c : Char) : Bool := Text.isLetter c || c = '%'

/-- The exponent that a text denotes, if it is one. -/
def exponent? (text : List Char) : Option Exponent := (Decimal.readInt? text).bind Exponent.ofInt?

/-- The unit under a name. -/
def named (catalog : Catalog) (name : String) : Except UnitError PhysicalUnit :=
  match catalog.find? name with
  | some unit => .ok unit
  | none => .error (.unknownUnit name (catalog.suggest name))

/-- A base raised to a written exponent. -/
def raised (base : PhysicalUnit) (text : List Char) : Except UnitError PhysicalUnit :=
  match (exponent? text).bind base.pow? with
  | some unit => .ok unit
  | none => .error (.invalidExponent (String.ofList text))

/-- A product extended by its next power. -/
def combined (pending : Pending) (power : PhysicalUnit) : Except UnitError PhysicalUnit :=
  let result :=
    match pending with
    | none => some power
    | some (product, .mul) => product.mul? power
    | some (product, .div) => product.div? power
  match result with
  | some unit => .ok unit
  | none => .error .exponentOverflow

/-- Reads a character where a power must begin. -/
def stepExpecting (reading : Reading) (c : Char) (offset : Nat) : Except UnitError Reading :=
  if Text.isBlank c then .ok reading
  else if c = '(' then .ok ⟨reading.pending :: reading.outer, none, .expecting⟩
  else if c = '1' then .ok { reading with stage := .based .one }
  else if isNameChar c then .ok { reading with stage := .naming [c] }
  else .error (.unexpectedChar c offset)

/-- Reads a character after a complete power. -/
def stepComplete (reading : Reading) (product : PhysicalUnit) (c : Char) (offset : Nat) :
    Except UnitError Reading :=
  if Text.isBlank c then .ok { reading with stage := .complete product }
  else if c = '*' || c = '·' then .ok { reading with pending := some (product, .mul), stage := .expecting }
  else if c = '/' then .ok { reading with pending := some (product, .div), stage := .expecting }
  else
    match c, reading.outer with
    | ')', pending :: outer => .ok ⟨outer, pending, .based product⟩
    | _, _ => .error (.unexpectedChar c offset)

/-- Reads a character after a complete base. Any character but a blank or `^` ends the power. -/
def stepBased (reading : Reading) (base : PhysicalUnit) (c : Char) (offset : Nat) :
    Except UnitError Reading :=
  if Text.isBlank c then .ok { reading with stage := .based base }
  else if c = '^' then .ok { reading with stage := .raising base }
  else do
    let product ← combined reading.pending base
    stepComplete reading product c offset

/-- Reads a character after `^`. -/
def stepRaising (reading : Reading) (base : PhysicalUnit) (c : Char) (offset : Nat) :
    Except UnitError Reading :=
  if Text.isBlank c then .ok reading
  else if c = '-' || c = '+' || c.isDigit then .ok { reading with stage := .counting base [c] }
  else .error (.unexpectedChar c offset)

/-- Reads one character, which stands `offset` bytes after the start. -/
def step (catalog : Catalog) (reading : Reading) (c : Char) (offset : Nat) : Except UnitError Reading :=
  match reading.stage with
  | .expecting => stepExpecting reading c offset
  | .naming reversed =>
    if isNameChar c then .ok { reading with stage := .naming (c :: reversed) }
    else do
      let base ← named catalog (String.ofList reversed.reverse)
      stepBased reading base c offset
  | .based base => stepBased reading base c offset
  | .raising base => stepRaising reading base c offset
  | .counting base reversed =>
    if c.isDigit then .ok { reading with stage := .counting base (c :: reversed) }
    else do
      let power ← raised base reversed.reverse
      let product ← combined reading.pending power
      stepComplete reading product c offset
  | .complete product => stepComplete reading product c offset

/-- Reads characters from a given offset on. -/
def run (catalog : Catalog) : Reading → Nat → List Char → Except UnitError Reading
  | reading, _, [] => .ok reading
  | reading, offset, c :: rest => do
    let next ← step catalog reading c offset
    run catalog next (offset + c.utf8Size) rest

/-- The product of the innermost group when the text ends. -/
def finish (catalog : Catalog) (reading : Reading) : Except UnitError PhysicalUnit := do
  let product ←
    match reading.stage with
    | .expecting => .error .unexpectedEnd
    | .naming reversed => do combined reading.pending (← named catalog (String.ofList reversed.reverse))
    | .based base => combined reading.pending base
    | .raising _ => .error .unexpectedEnd
    | .counting base reversed => do combined reading.pending (← raised base reversed.reverse)
    | .complete product => .ok product
  if reading.outer.isEmpty then .ok product else .error .unexpectedEnd

end UnitExpression

/-- The unit that an expression denotes. -/
def Catalog.parse (catalog : Catalog) (text : String) : Except UnitError PhysicalUnit :=
  if text.toList.all Text.isBlank then .error .empty
  else do
    let reading ← UnitExpression.run catalog .start 0 text.toList
    UnitExpression.finish catalog reading

end Circuitry
