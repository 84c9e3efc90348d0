import Circuitry.Host

/-!
# Scripted callbacks

Callbacks given as data: what a function or a callable model does with its arguments.
-/

set_option autoImplicit false

namespace Circuitry

/-- What a callback does. -/
inductive Script where
  /-- Gives the number of arguments. -/
  | count
  /-- Gives a fixed value. -/
  | constant (value : Value)
  /-- Gives an argument. -/
  | argument (index : Nat)
  /-- Fails. -/
  | fail (message : String)
  /-- Gives the product of two arguments. -/
  | product (first second : Nat)
  /-- Gives an attribute of the object that is called. -/
  | attribute (name : String)

namespace Script

/-- The argument at a position. -/
def argumentAt (arguments : List Value) (index : Nat) : CallResult :=
  match arguments[index]? with
  | some value => .ok value
  | none => .error ("no argument " ++ Decimal.natText index)

/-- The quantity at a position. -/
def quantityAt (arguments : List Value) (index : Nat) : Except String Quantity := do
  match (← argumentAt arguments index).quantity? with
  | some quantity => return quantity
  | none => throw ("argument " ++ Decimal.natText index ++ " is not a number")

/-- What a script gives, for an object with given attributes. -/
def run (script : Script) (attributes : List (String × Value)) (arguments : List Value) : CallResult :=
  match script with
  | .count => .ok (.ofQuantity (.ofNumber arguments.length))
  | .constant value => .ok value
  | .argument index => argumentAt arguments index
  | .fail message => .error message
  | .product first second => do
    let a ← quantityAt arguments first
    let b ← quantityAt arguments second
    return .ofQuantity (← (a.mul b).mapError QuantityError.message)
  | .attribute name =>
    match attributes.lookup name with
    | some value => .ok value
    | none => .error ("no attribute " ++ name)

end Script

end Circuitry
