import Circuitry.Dimension.Rendering

/-!
# Faults

A fault is misuse by the host, not a mistake in a circuit description: a scope or a context used against
its rules, a value whose payload does not fit its type, a type that refers to a parameter it lacks. A fault
ends the operation that meets it, while mistakes are reported as diagnostics and evaluation goes on.
-/

set_option autoImplicit false

namespace Circuitry

/-- Why a name cannot be declared. -/
inductive ScopeError where
  /-- The scope itself declares the name already. -/
  | alreadyDeclared (name : String)
  /-- The scope is sealed. -/
  | sealed (name : String)
  deriving DecidableEq, Repr

/-- The error in words. -/
def ScopeError.message : ScopeError → String
  | .alreadyDeclared name => "'" ++ name ++ "' is already declared in this scope"
  | .sealed name => "cannot declare '" ++ name ++ "' in the global scope"

/-- Why a symbol cannot be bound. -/
inductive ContextError where
  /-- The context itself binds the symbol already. -/
  | alreadyDefined (name : String)
  /-- The context is sealed. -/
  | sealed (name : String)
  deriving DecidableEq, Repr

/-- The error in words. -/
def ContextError.message : ContextError → String
  | .alreadyDefined name => "symbol '" ++ name ++ "' is already defined in this context"
  | .sealed name => "cannot define '" ++ name ++ "' in the global context"

/-- What ends an operation. -/
inductive Fault where
  /-- A signature refers to a parameter by a position that it does not have. -/
  | noSuchParameter
  /-- A name was declared against the rules of scopes. -/
  | scope (error : ScopeError)
  /-- A symbol was bound against the rules of contexts. -/
  | context (error : ContextError)
  /-- The result type of arithmetic was asked for with a type that is no number. -/
  | notNumber (type : String)
  /-- A payload is not of the kind that its use requires. -/
  | wrongPayload (expected found : String)
  /-- Quantities of different dimensions were ordered. -/
  | unordered (left right : Dimensions)
  /-- Calls of templates are nested deeper than allowed. -/
  | tooDeep
  deriving DecidableEq, Repr

/-- The fault in words, if it has any. -/
def Fault.message? : Fault → Option String
  | .noSuchParameter => none
  | .scope error => some error.message
  | .context error => some error.message
  | .notNumber type => some ("arithmetic dispatched against non-number type " ++ type)
  | .wrongPayload expected found => some ("expected " ++ expected ++ " payload, found " ++ found)
  | .unordered left right =>
    some ("ordering dispatched across dimensions " ++ left.text ++ " and " ++ right.text)
  | .tooDeep => none

end Circuitry
