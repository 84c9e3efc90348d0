import Circuitry.Host
import Circuitry.Kernel.Equality
import Circuitry.Kernel.Rendering

/-!
# Capabilities

What the values of a type can do: arithmetic on numbers, joining strings, attributes of objects and
models, calls of functions and of some models, and access to an object by key. An operation first asks the
types of its operands for a capability and only then touches payloads, so each capability comes in two
parts: rules on types, which never fault, and operations on payloads, which fault on a payload that does
not fit the type.
-/

set_option autoImplicit false

namespace Circuitry

/-! ### Payloads of a given kind -/

namespace Payload

/-- The fault of a payload that is not of the expected kind. -/
def unexpected {α : Type} (expected : String) (payload : Payload) : Except Fault α :=
  .error (.wrongPayload expected payload.kind)

def asQuantity : Payload → Except Fault Quantity
  | .quantity value => .ok value
  | other => other.unexpected "a quantity"

def asString : Payload → Except Fault String
  | .string value => .ok value
  | other => other.unexpected "a string"

def asFields : Payload → Except Fault (List (String × Value))
  | .object fields => .ok fields
  | other => other.unexpected "an object"

def asFunction : Payload → Except Fault FunctionId
  | .function id => .ok id
  | other => other.unexpected "a function"

def asModel : Payload → Except Fault ObjectId
  | .model id => .ok id
  | other => other.unexpected "a model"

end Payload

/-! ### Arithmetic -/

/-- Arithmetic on numbers of given dimensions. -/
structure Arithmetic where
  dims : Dimensions

/-- Only numbers support arithmetic. -/
def Ty.arithmetic? (ty : Ty) : Option Arithmetic := ty.dims?.map Arithmetic.mk

namespace Arithmetic

/-- Sums, differences and ordering need the same dimensions. -/
def canSum (arithmetic : Arithmetic) (other : Ty) : Bool := other.dims? = some arithmetic.dims

/-- Products and quotients need another number. -/
def canMultiply (_ : Arithmetic) (other : Ty) : Bool := other.isNumber

/-- The type of a sum or difference, and of the opposite. -/
def sumType (arithmetic : Arithmetic) : Ty := .number arithmetic.dims

/-- The dimensions of another operand, which must be a number. -/
def otherDims (other : Ty) : Except Fault Dimensions :=
  match other.dims? with
  | some dims => .ok dims
  | none => do throw (.notNumber (← other.text))

/-- The type of a product, unless its dimensions are out of range. -/
def productType (arithmetic : Arithmetic) (other : Ty) : Except Fault (Option Ty) := do
  return (arithmetic.dims.mul? (← otherDims other)).map Ty.number

/-- The type of a quotient, unless its dimensions are out of range. -/
def quotientType (arithmetic : Arithmetic) (other : Ty) : Except Fault (Option Ty) := do
  return (arithmetic.dims.div? (← otherDims other)).map Ty.number

def add (a b : Payload) : Except Fault Payload := do
  let left ← a.asQuantity
  return .quantity (left.add (← b.asQuantity))

def sub (a b : Payload) : Except Fault Payload := do
  let left ← a.asQuantity
  return .quantity (left.sub (← b.asQuantity))

def mul (a b : Payload) : Except Fault (Except QuantityError Payload) := do
  let left ← a.asQuantity
  return (left.mul (← b.asQuantity)).map Payload.quantity

def div (a b : Payload) : Except Fault (Except QuantityError Payload) := do
  let left ← a.asQuantity
  return (left.div (← b.asQuantity)).map Payload.quantity

def neg (a : Payload) : Except Fault Payload := do return .quantity (← a.asQuantity).neg

/-- The order of two quantities, which must have the same dimensions. -/
def compare (a b : Payload) : Except Fault Ordering := do
  let left ← a.asQuantity
  let right ← b.asQuantity
  match left.compare? right with
  | some order => return order
  | none => throw (.unordered left.dims right.dims)

end Arithmetic

/-! ### Strings -/

/-- Whether values of two types can be joined into a string. -/
def Ty.canConcat (left right : Ty) : Bool := left.isString && right.isString

/-- The text of one string followed by the other. -/
def Payload.concat (a b : Payload) : Except Fault Payload := do
  let left ← a.asString
  return .string (left ++ (← b.asString))

/-! ### Attributes -/

/-- Where the attributes of a value come from. -/
inductive AttributeSource where
  | object (attributes : List (String × Ty))
  | model (kind : ModelType)

/-- Objects and models have attributes. -/
def Ty.attributes? : Ty → Option AttributeSource
  | .object attributes => some (.object attributes)
  | .model kind => some (.model kind)
  | _ => none

namespace AttributeSource

/-- The type of an attribute, if there is one of that name. -/
def type? (host : Host) : AttributeSource → String → Option Ty
  | .object attributes, name => attributes.lookup name
  | .model kind, name => (host.model kind).attributeType? name

/-- The names of all attributes. -/
def names (host : Host) : AttributeSource → List String
  | .object attributes => Record.names attributes
  | .model kind => (host.model kind).attributeNames

/-- The value of an attribute. -/
def value? (host : Host) : AttributeSource → Payload → String → Except Fault (Option Value)
  | .object _, payload, name => do return (← payload.asFields).lookup name
  | .model kind, payload, name => do return (host.model kind).attribute? (← payload.asModel) name

end AttributeSource

/-! ### Calls -/

/-- How a value is called. -/
inductive Callable where
  | function (signature : Signature)
  | model (kind : ModelType) (signature : Signature)

/-- Functions can be called, and models whose behavior has a signature. -/
def Ty.callable? (host : Host) : Ty → Option Callable
  | .function signature => some (.function signature)
  | .model kind => ((host.model kind).signature?).map (Callable.model kind)
  | _ => none

/-- The signature of a callable. -/
def Callable.signature : Callable → Signature
  | .function signature => signature
  | .model _ signature => signature

/-- The result of a call with bound and known arguments. -/
def Callable.call (host : Host) : Callable → Payload → List Value → Except Fault CallResult
  | .function _, payload, arguments => do host.call (← payload.asFunction) arguments
  | .model kind _, payload, arguments => do
    return (host.model kind).call (← payload.asModel) arguments

/-! ### Access by key -/

/-- Objects can be accessed by key. -/
structure Indexable where
  attributes : List (String × Ty)

/-- Only objects can be accessed by key. -/
def Ty.indexable? (ty : Ty) : Option Indexable := ty.object?.map Indexable.mk

/-- The type that all of some attributes share, if there are any and they share one. -/
def uniformType? : List (String × Ty) → Option Ty
  | [] => none
  | (_, first) :: rest => if rest.all fun entry => entry.2.same first then some first else none

namespace Indexable

/-- Keys are strings. -/
def canIndex (_ : Indexable) (key : Ty) : Bool := key.isString

/-- The type of the element under a known key, or under an unknown one if all elements share a type. -/
def elementType? (indexable : Indexable) : Option Payload → Except Fault (Option Ty)
  | some key => do return indexable.attributes.lookup (← key.asString)
  | none => .ok (uniformType? indexable.attributes)

/-- The element under a key. -/
def element? (target key : Payload) : Except Fault (Option Value) := do
  let fields ← target.asFields
  return fields.lookup (← key.asString)

end Indexable

/-! ### Arguments -/

/-- Whether an argument's type satisfies a constraint, given the types of the arguments that are bound.
Against a parameter that is not bound anything is accepted. -/
def Constraint.accepts (ty : Ty) (bound : List (Option Ty)) : Constraint → Bool
  | .any => true
  | .anyNumber => ty.isNumber
  | .exactly expected => expected.same ty
  | .sameAs other =>
    match bound[other]? with
    | some (some expected) => expected.same ty
    | _ => true

/-- Whether an argument's type satisfies the constraint of the parameter at a position. -/
def Signature.accepts (signature : Signature) (index : Nat) (ty : Ty) (bound : List (Option Ty)) :
    Except Fault Bool :=
  match signature.parameters[index]? with
  | some parameter => .ok (parameter.constraint.accepts ty bound)
  | none => .error .noSuchParameter

/-- The result type of a call, given the types of all arguments. -/
def Signature.resultType (signature : Signature) (arguments : List Ty) : Except Fault Ty :=
  match signature.returns with
  | .fixed ty => .ok ty
  | .sameAs index =>
    match arguments[index]? with
    | some ty => .ok ty
    | none => .error .noSuchParameter

end Circuitry
