import Circuitry.Kernel.Basic

/-!
# Values for the host

What a host sees of a known value: its data without language types. Unknown parts of an object are left
open.
-/

set_option autoImplicit false

namespace Circuitry

/-- The data of a known value. -/
inductive Native where
  | bool (value : Bool)
  | string (value : String)
  | quantity (value : Quantity)
  /-- The attributes of an object in order; none where an attribute is not known. -/
  | object (attributes : List (String × Option Native))
  | function (id : FunctionId)
  | model (id : ObjectId)
  | type (ty : Ty)

namespace Native

def quantity? : Native → Option Quantity
  | .quantity value => some value
  | _ => none

def object? : Native → Option (List (String × Option Native))
  | .object attributes => some attributes
  | _ => none

end Native

mutual

/-- What a host sees of a value, if it is known. -/
def Value.native? : Value → Option Native
  | .known _ payload => some payload.native
  | _ => none
termination_by structural value => value

/-- What a host sees of a payload. -/
def Payload.native : Payload → Native
  | .bool value => .bool value
  | .string value => .string value
  | .quantity value => .quantity value
  | .object fields => .object (Value.nativeFields fields)
  | .function id => .function id
  | .type ty => .type ty
  | .model id => .model id
termination_by structural payload => payload

/-- What a host sees of the fields of an object. -/
def Value.nativeFields : List (String × Value) → List (String × Option Native)
  | [] => []
  | field :: rest => Value.nativeField field :: Value.nativeFields rest
termination_by structural fields => fields

/-- What a host sees of a field. -/
def Value.nativeField : String × Value → String × Option Native
  | (name, value) => (name, value.native?)
termination_by structural field => field

end

end Circuitry
