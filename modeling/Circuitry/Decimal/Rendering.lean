import Circuitry.Decimal.Numeral

/-!
# Decimal rendering

A rational is written with at most a given number of fractional digits. Further digits are rounded, a
half away from zero, and trailing zeros are left out, so a value that rounds to zero is written `0`.
-/

set_option autoImplicit false

namespace Circuitry.Decimal

/-- Long division of a remainder by `divisor`: up to `places` digits, fewer when nothing remains, and
what remains after them. -/
def longDivision (divisor : Nat) : Nat → Nat → List Nat × Nat
  | 0, remainder => ([], remainder)
  | places + 1, remainder =>
    if remainder = 0 then ([], 0)
    else
      let (digits, left) := longDivision divisor places (10 * remainder % divisor)
      (10 * remainder / divisor :: digits, left)

/-- Adds one to the last of some decimal digits; the flag says that a carry leaves the first. -/
def increment : List Nat → Bool × List Nat
  | [] => (true, [])
  | digit :: rest =>
    match increment rest with
    | (false, rest) => (false, digit :: rest)
    | (true, rest) => if digit = 9 then (true, 0 :: rest) else (false, (digit + 1) :: rest)

/-- Leaves out the zeros at the end. -/
def dropTrailingZeros (digits : List Nat) : List Nat :=
  (digits.reverse.dropWhile (· = 0)).reverse

/-- The whole part and the fractional digits of `numerator / divisor`, rounded to `places` digits. -/
def roundedDigits (numerator divisor places : Nat) : Nat × List Nat :=
  let whole := numerator / divisor
  let (digits, left) := longDivision divisor places (numerator % divisor)
  if divisor ≤ 2 * left then
    let (carry, digits) := increment digits
    (if carry then whole + 1 else whole, dropTrailingZeros digits)
  else (whole, dropTrailingZeros digits)

/-- A rational in decimal with at most `places` fractional digits. -/
def render (value : Rat) (places : Nat) : String :=
  let (whole, digits) := roundedDigits value.num.natAbs value.den places
  let sign := if value < 0 && !(whole = 0 && digits.isEmpty) then "-" else ""
  let fraction := if digits.isEmpty then "" else "." ++ String.ofList (digits.map Nat.digitChar)
  sign ++ natText whole ++ fraction

end Circuitry.Decimal
