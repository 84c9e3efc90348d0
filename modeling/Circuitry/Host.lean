import Circuitry.Fault
import Circuitry.Kernel.Basic

/-!
# The host

What lies outside the language: kinds of host objects, and the callbacks behind functions. The host answers
for both by identity. Nothing here says how it finds its answers; whoever reasons about evaluation assumes
of the host what is needed.
-/

set_option autoImplicit false

namespace Circuitry

/-- What a call of a callback gives: a value, or the reason why it failed. -/
abbrev CallResult := Except String Value

/-- What one kind of host object offers. -/
structure ModelBehavior where
  /-- The type of an attribute, if this kind has it. -/
  attributeType? : String → Option Ty
  /-- The value of an attribute of one object. -/
  attribute? : ObjectId → String → Option Value
  /-- The names of the attributes. -/
  attributeNames : List String
  /-- The signature, if objects of this kind can be called. -/
  signature? : Option Signature
  /-- The result of calling an object with bound and known arguments. -/
  call : ObjectId → List Value → CallResult

/-- What calling a model gives that does not say how it is called. -/
def ModelBehavior.notCallable (_ : ObjectId) (_ : List Value) : CallResult :=
  .error "model is not callable"

/-- Everything that evaluation asks of the host. -/
structure Host where
  /-- The behavior of a kind of objects. -/
  model : ModelType → ModelBehavior
  /-- The result of calling a function with bound and known arguments, unless a fault ends the call. -/
  call : FunctionId → List Value → Except Fault CallResult

end Circuitry
