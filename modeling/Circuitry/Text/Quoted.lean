import Circuitry.Text.Printable

/-!
# Quoted text

A text value is shown between double quotes. Quotes, backslashes and the usual controls have short
escapes; any other character that would not show on its own is written by its code point.
-/

set_option autoImplicit false

namespace Circuitry.Text

/-- The digits of `n` in base sixteen, in lower case. -/
def hexadecimal (n : Nat) : List Char := Nat.toDigits 16 n

/-- One character inside quotes. -/
def escape (c : Char) : List Char :=
  if c = '\x00' then ['\\', '0']
  else if c = '\t' then ['\\', 't']
  else if c = '\r' then ['\\', 'r']
  else if c = '\n' then ['\\', 'n']
  else if c = '\\' then ['\\', '\\']
  else if c = '"' then ['\\', '"']
  else if isPrintable c then [c]
  else ['\\', 'u', Char.ofNat 0x7B] ++ hexadecimal c.toNat ++ [Char.ofNat 0x7D]

/-- A text between double quotes, each character escaped on its own. -/
def quote (text : String) : String :=
  String.ofList (('"' :: text.toList.flatMap escape) ++ ['"'])

end Circuitry.Text
