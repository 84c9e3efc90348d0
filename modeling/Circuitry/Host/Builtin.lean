import Circuitry.Host
import Circuitry.Kernel.Rendering
import Circuitry.Scope.Context

/-!
# Builtin names

The names that every description can use: the types with names, and functions on numbers of whatever
dimensions. They are declared in a sealed scope and bound in a sealed context, from which all others
descend.
-/

set_option autoImplicit false

namespace Circuitry

/-- The functions that every description can call. -/
inductive Builtin where
  | abs
  | min
  | max
  | parallel
  deriving DecidableEq, Repr

namespace Builtin

/-- All builtin functions, in the order in which their names are declared. -/
def all : List Builtin := [.abs, .min, .max, .parallel]

def name : Builtin → String
  | .abs => "abs"
  | .min => "min"
  | .max => "max"
  | .parallel => "parallel"

/-- The identity of a builtin function is its place among all. -/
def id : Builtin → FunctionId
  | .abs => ⟨0⟩
  | .min => ⟨1⟩
  | .max => ⟨2⟩
  | .parallel => ⟨3⟩

/-- A parameter without default. -/
def parameter (name : String) (constraint : Constraint) : Parameter := ⟨name, constraint, none⟩

/-- Any number, or two numbers of the same dimensions; the result has those dimensions too. -/
def signature : Builtin → Signature
  | .abs => ⟨[parameter "x" .anyNumber], .sameAs 0⟩
  | .min | .max | .parallel => ⟨[parameter "a" .anyNumber, parameter "b" (.sameAs 0)], .sameAs 0⟩

/-- The quantity at a position among arguments. -/
def quantityAt (arguments : List Value) (index : Nat) : Except String Quantity :=
  match (arguments[index]?).bind Value.quantity? with
  | some quantity => .ok quantity
  | none => .error ("argument " ++ Decimal.natText (index + 1) ++ " is not a known number")

/-- The argument that stands in the `wanted` order to the other; the first if they are equal. -/
def pick (wanted : Ordering) (arguments : List Value) : CallResult := do
  let a ← quantityAt arguments 0
  let b ← quantityAt arguments 1
  match b.compare? a with
  | some order => return (arguments[if order = wanted then 1 else 0]?).getD .placeholder
  | none => throw ("cannot compare " ++ a.dims.text ++ " and " ++ b.dims.text)

/-- The parallel combination of two quantities, in the unit of the first. A zero shorts the pair. -/
def combineParallel (a b : Quantity) : Except QuantityError Quantity :=
  if a.isZero || b.isZero then .ok ⟨0, a.unit⟩
  else do
    let left ← a.inv
    let right ← b.inv
    let combined ← (left.add right).inv
    combined.convert a.unit

/-- The result of calling a builtin function. -/
def call (builtin : Builtin) (arguments : List Value) : CallResult :=
  match builtin with
  | .abs => do return .ofQuantity (← quantityAt arguments 0).abs
  | .min => pick .lt arguments
  | .max => pick .gt arguments
  | .parallel => do
    let a ← quantityAt arguments 0
    let b ← quantityAt arguments 1
    return .ofQuantity (← (combineParallel a b).mapError QuantityError.message)

/-- The function as a value. -/
def value (builtin : Builtin) : Value := .ofFunction builtin.signature builtin.id

end Builtin

/-- All builtin names with their values: first the types, then the functions. -/
def builtinNames : List (String × Value) :=
  [("Bool", .ofType .bool), ("String", .ofType .string), ("Number", .ofType .plainNumber)] ++
    namedDimensions.map (fun (name, dims) => (name, .ofType (.number dims))) ++
    Builtin.all.map fun builtin => (builtin.name, builtin.value)

/-- The sealed scope that declares all builtin names. -/
def builtinScopes : ScopeForest := (ScopeForest.sealedRoot (builtinNames.map Prod.fst)).2

/-- The sealed context that binds all builtin names. -/
def builtinContexts : ContextForest :=
  let symbols := (ScopeForest.sealedRoot (builtinNames.map Prod.fst)).1
  ContextForest.sealedRoot (symbols.zip (builtinNames.map Prod.snd))

end Circuitry
