/-!
# Powers of rationals

Integer powers, which exist unless zero is raised to a negative exponent.
-/

set_option autoImplicit false

namespace Circuitry.Decimal

/-- An integer power; a negative exponent inverts the base, which zero does not allow. -/
def power? (base : Rat) (exponent : Int) : Option Rat :=
  if base = 0 ∧ exponent < 0 then none else some (base ^ exponent)

/-- Ten to an integer power. -/
def tenTo (exponent : Int) : Rat := (10 : Rat) ^ exponent

end Circuitry.Decimal
