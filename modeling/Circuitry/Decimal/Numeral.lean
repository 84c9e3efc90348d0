/-!
# Numerals

Decimal digit strings and the numbers they denote, and exact rationals as fractions.
-/

set_option autoImplicit false

namespace Circuitry.Decimal

/-- The number that a string of decimal digits denotes, most significant digit first. -/
def digitsValue (digits : List Char) : Nat :=
  digits.foldl (fun value digit => 10 * value + (digit.toNat - '0'.toNat)) 0

/-- The decimal digits of a number, without leading zeros. -/
def natText (n : Nat) : String := String.ofList (Nat.toDigits 10 n)

/-- The decimal digits of an integer, after a minus sign when it is negative. -/
def intText (n : Int) : String :=
  if n < 0 then "-" ++ natText n.natAbs else natText n.natAbs

/-- A sign, if one is written, and the characters after it. -/
def splitSign : List Char → Bool × List Char
  | '-' :: rest => (true, rest)
  | '+' :: rest => (false, rest)
  | rest => (false, rest)

/-- Reads an optional sign and at least one decimal digit, and nothing else. -/
def readInt? (cs : List Char) : Option Int :=
  let (negative, digits) := splitSign cs
  if digits.isEmpty || !digits.all Char.isDigit then none
  else some (if negative then -(digitsValue digits : Int) else digitsValue digits)

/-- A rational as an integer or as a fraction in lowest terms. -/
def fractionText (q : Rat) : String :=
  if q.den = 1 then intText q.num else intText q.num ++ "/" ++ natText q.den

/-- Reads an integer whose digits may be parted by underscores, though not before the first digit. -/
def readPartedInt? (cs : List Char) : Option Int :=
  if (splitSign cs).2.head? = some '_' then none else readInt? (cs.filter (· ≠ '_'))

/-- Reads an integer or a fraction of integers with a denominator other than zero. -/
def readFraction? (text : String) : Option Rat :=
  let (numerator, rest) := text.toList.span (· ≠ '/')
  match rest with
  | [] => (readPartedInt? numerator).map fun n => (n : Rat)
  | _ :: denominator => do
    let n ← readPartedInt? numerator
    let d ← readPartedInt? denominator
    if d = 0 then none else some ((n : Rat) / (d : Rat))

end Circuitry.Decimal
