import Circuitry.Quantity.Literal
import Circuitry.Record

/-!
# Types and values

The closed set of types and the values of the language. A value is known, with a type and a payload; or
unknown, when only its type is fixed yet; or a placeholder, which stands for something already reported and
has no type. Types may mention values, because a parameter of a function type may have a default.

The attributes of an object type and the fields of an object are records: their names are distinct and
ordered, and the order is for display alone.
-/

set_option autoImplicit false

namespace Circuitry

/-- The identity of a function. What calling it does is not part of the value. -/
structure FunctionId where
  index : Nat
  deriving DecidableEq, Repr

/-- The identity of an object that the host owns. -/
structure ObjectId where
  index : Nat
  deriving DecidableEq, Repr

/-- A kind of host object. Kinds are told apart by `index`; the name is for display. -/
structure ModelType where
  index : Nat
  name : String
  deriving Repr

mutual

/-- The types of values. -/
inductive Ty where
  | bool
  | string
  /-- Quantities of given dimensions, in whatever unit. -/
  | number (dims : Dimensions)
  /-- Objects whose attributes have given types. -/
  | object (attributes : List (String × Ty))
  | function (signature : Signature)
  /-- The type of types used as values. -/
  | type
  | model (kind : ModelType)

/-- The parameters of something callable, and the rule for its result type. -/
structure Signature where
  parameters : List Parameter
  returns : ResultRule

/-- A parameter, with the value it takes when no argument is given. -/
structure Parameter where
  name : String
  constraint : Constraint
  fallback : Option Value

/-- What an argument's type must satisfy. -/
inductive Constraint where
  | any
  | anyNumber
  | exactly (ty : Ty)
  /-- The type of the argument for another parameter, given by position. -/
  | sameAs (index : Nat)

/-- How the result type of a call is found. -/
inductive ResultRule where
  | fixed (ty : Ty)
  /-- The type of the argument for a parameter, given by position. -/
  | sameAs (index : Nat)

/-- A value of the language. -/
inductive Value where
  | known (ty : Ty) (payload : Payload)
  | unknown (ty : Ty)
  | placeholder

/-- The data of a known value. -/
inductive Payload where
  | bool (value : Bool)
  | string (value : String)
  | quantity (value : Quantity)
  | object (fields : List (String × Value))
  | function (id : FunctionId)
  | type (ty : Ty)
  | model (id : ObjectId)

end

namespace Ty

/-- The object type with given attributes. -/
def ofAttributes (attributes : List (String × Ty)) : Ty := .object (Record.ofPairs attributes)

/-- The type of plain numbers. -/
def plainNumber : Ty := .number .dimensionless

def isBool : Ty → Bool
  | .bool => true
  | _ => false

def isString : Ty → Bool
  | .string => true
  | _ => false

def isNumber : Ty → Bool
  | .number _ => true
  | _ => false

/-- The dimensions of a number type. -/
def dims? : Ty → Option Dimensions
  | .number dims => some dims
  | _ => none

/-- The attributes of an object type. -/
def object? : Ty → Option (List (String × Ty))
  | .object attributes => some attributes
  | _ => none

end Ty

/-- The position of the parameter with a given name. -/
def Signature.index? (signature : Signature) (name : String) : Option Nat :=
  signature.parameters.findIdx? fun parameter => parameter.name = name

/-- What a payload is, in one word. -/
def Payload.kind : Payload → String
  | .bool _ => "bool"
  | .string _ => "string"
  | .quantity _ => "quantity"
  | .object _ => "object"
  | .function _ => "function"
  | .type _ => "type"
  | .model _ => "model"

namespace Value

/-! ### Construction -/

def ofBool (value : Bool) : Value := .known .bool (.bool value)

def ofString (value : String) : Value := .known .string (.string value)

def ofQuantity (value : Quantity) : Value := .known (.number value.dims) (.quantity value)

def ofType (ty : Ty) : Value := .known .type (.type ty)

def ofFunction (signature : Signature) (id : FunctionId) : Value :=
  .known (.function signature) (.function id)

def ofModel (kind : ModelType) (id : ObjectId) : Value := .known (.model kind) (.model id)

/-! ### Inspection -/

/-- The type, which only a placeholder lacks. -/
def ty? : Value → Option Ty
  | .known ty _ => some ty
  | .unknown ty => some ty
  | .placeholder => none

/-- The payload of a known value. -/
def payload? : Value → Option Payload
  | .known _ payload => some payload
  | _ => none

def isKnown : Value → Bool
  | .known _ _ => true
  | _ => false

def isUnknown : Value → Bool
  | .unknown _ => true
  | _ => false

def isPlaceholder : Value → Bool
  | .placeholder => true
  | _ => false

def bool? : Value → Option Bool
  | .known _ (.bool value) => some value
  | _ => none

def string? : Value → Option String
  | .known _ (.string value) => some value
  | _ => none

def quantity? : Value → Option Quantity
  | .known _ (.quantity value) => some value
  | _ => none

def type? : Value → Option Ty
  | .known _ (.type ty) => some ty
  | _ => none

def object? : Value → Option (List (String × Value))
  | .known _ (.object fields) => some fields
  | _ => none

/-- The types of named values, unless one of them is a placeholder. -/
def attributeTypes? (attributes : List (String × Value)) : Option (List (String × Ty)) :=
  attributes.mapM fun (name, value) => value.ty?.map fun ty => (name, ty)

/-- The object with given attributes. A placeholder among them makes it a placeholder, while unknown ones
are kept. -/
def ofAttributes (attributes : List (String × Value)) : Value :=
  match attributeTypes? attributes with
  | none => .placeholder
  | some types => .known (.ofAttributes types) (.object (Record.ofPairs attributes))

end Value

end Circuitry
