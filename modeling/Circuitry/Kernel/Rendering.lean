import Circuitry.Fault
import Circuitry.Kernel.Basic
import Circuitry.Text.Quoted

/-!
# Types and values in writing

Dimensions that have a name of their own are written by it. A signature names the parameters that it
refers to, so writing one fails when it refers to a parameter that it lacks.
-/

set_option autoImplicit false

namespace Circuitry

/-- The dimensions with names, in the order in which the names are listed. -/
def namedDimensions : List (String × Dimensions) :=
  [("Voltage", .voltage),
   ("Current", .ofCurrent),
   ("Resistance", .resistance),
   ("Capacitance", .capacitance),
   ("Inductance", .inductance),
   ("Power", .electricPower),
   ("Frequency", .frequency),
   ("Time", .ofTime),
   ("Length", .ofLength),
   ("Charge", .charge),
   ("Conductance", .conductance)]

/-- The name of the type of numbers with given dimensions. -/
def Dimensions.typeName? (dims : Dimensions) : Option String :=
  if dims.isDimensionless then some "Number"
  else (namedDimensions.find? fun named => named.2 = dims).map Prod.fst

/-- The type of numbers with given dimensions, in writing. -/
def Dimensions.typeText (dims : Dimensions) : String :=
  match dims.typeName? with
  | some name => name
  | none => "Number[" ++ dims.text ++ "]"

/-- Parts in braces, separated by commas. -/
def braced (parts : List String) : String := "\x7b" ++ ", ".intercalate parts ++ "\x7d"

/-- A reference to the type of the parameter at a position. -/
def typeOfParameter (names : List String) (index : Nat) : Except Fault String :=
  match names[index]? with
  | some name => .ok ("typeof(" ++ name ++ ")")
  | none => .error .noSuchParameter

mutual

/-- A type in writing. -/
def Ty.text : Ty → Except Fault String
  | .bool => .ok "Bool"
  | .string => .ok "String"
  | .number dims => .ok dims.typeText
  | .object attributes => do return braced (← Ty.attributeTexts attributes)
  | .function signature => signature.text
  | .type => .ok "Type"
  | .model kind => .ok kind.name
termination_by structural ty => ty

/-- Attributes in writing. -/
def Ty.attributeTexts : List (String × Ty) → Except Fault (List String)
  | [] => .ok []
  | entry :: rest => do
    let first ← Ty.attributeText entry
    return first :: (← Ty.attributeTexts rest)
termination_by structural attributes => attributes

/-- An attribute in writing. -/
def Ty.attributeText : String × Ty → Except Fault String
  | (name, ty) => do return name ++ ": " ++ (← ty.text)
termination_by structural entry => entry

/-- A signature in writing. -/
def Signature.text : Signature → Except Fault String
  | ⟨parameters, returns⟩ => do
    let names := parameters.map Parameter.name
    let written ← Parameter.texts parameters names
    return "fn(" ++ ", ".intercalate written ++ ") -> " ++ (← returns.text names)
termination_by structural signature => signature

/-- Parameters in writing. -/
def Parameter.texts : List Parameter → List String → Except Fault (List String)
  | [], _ => .ok []
  | parameter :: rest, names => do
    let first ← parameter.text names
    return first :: (← Parameter.texts rest names)
termination_by structural parameters => parameters

/-- A parameter in writing; its default is left out. -/
def Parameter.text : Parameter → List String → Except Fault String
  | ⟨name, constraint, _⟩, names => do return name ++ ": " ++ (← constraint.text names)
termination_by structural parameter => parameter

/-- A constraint in writing, among parameters with given names. -/
def Constraint.text : Constraint → List String → Except Fault String
  | .any, _ => .ok "Any"
  | .anyNumber, _ => .ok "Number<*>"
  | .exactly ty, _ => ty.text
  | .sameAs index, names => typeOfParameter names index
termination_by structural constraint => constraint

/-- A result rule in writing, among parameters with given names. -/
def ResultRule.text : ResultRule → List String → Except Fault String
  | .fixed ty, _ => ty.text
  | .sameAs index, names => typeOfParameter names index
termination_by structural rule => rule

end

/-- The constraint of the parameter at a position, in writing. -/
def Signature.constraintText (signature : Signature) (index : Nat) : Except Fault String :=
  match signature.parameters[index]? with
  | some parameter => parameter.constraint.text (signature.parameters.map Parameter.name)
  | none => .error .noSuchParameter

mutual

/-- A value in writing, its magnitudes with at most `digits` fractional digits. -/
def Value.render (digits : Nat) : Value → Except Fault String
  | .placeholder => .ok "<placeholder>"
  | .unknown ty => do return "<unknown " ++ (← ty.text) ++ ">"
  | .known ty payload => payload.render digits ty
termination_by structural value => value

/-- A payload of a given type in writing. Functions and host objects are written as their type. -/
def Payload.render (digits : Nat) : Payload → Ty → Except Fault String
  | .bool value, _ => .ok (if value then "true" else "false")
  | .string value, _ => .ok (Text.quote value)
  | .quantity value, _ => .ok (value.render digits)
  | .object fields, _ => do return braced (← Value.fieldTexts digits fields)
  | .function _, ty => do return "<" ++ (← ty.text) ++ ">"
  | .type inner, _ => inner.text
  | .model _, ty => do return "<" ++ (← ty.text) ++ ">"
termination_by structural payload => payload

/-- Fields in writing. -/
def Value.fieldTexts (digits : Nat) : List (String × Value) → Except Fault (List String)
  | [] => .ok []
  | field :: rest => do
    let first ← Value.fieldText digits field
    return first :: (← Value.fieldTexts digits rest)
termination_by structural fields => fields

/-- A field in writing. -/
def Value.fieldText (digits : Nat) : String × Value → Except Fault String
  | (name, value) => do return name ++ ": " ++ (← value.render digits)
termination_by structural field => field

end

/-- A value with the usual number of digits. -/
def Value.text (value : Value) : Except Fault String := value.render Quantity.displayDigits

end Circuitry
