import Circuitry.Decimal.Numeral

/-!
# Spans

A span is a range of bytes in one source file, with the line on which it starts. Spans are only carried
along, to be shown in diagnostics.
-/

set_option autoImplicit false

namespace Circuitry

/-- A range of bytes in a source file. -/
structure Span where
  file : Nat
  /-- The first byte. -/
  start : Nat
  /-- The byte after the last. -/
  stop : Nat
  /-- The line of the first byte, counted from one. -/
  line : Nat
  deriving DecidableEq, Repr

namespace Span

/-- The empty span at the start of a file. -/
def atStart (file : Nat) : Span := ⟨file, 0, 0, 1⟩

def isEmpty (span : Span) : Bool := span.start = span.stop

/-- The number of bytes, zero for a span that ends before it starts. -/
def length (span : Span) : Nat := span.stop - span.start

/-- The smallest span that covers two spans of the same file. -/
def merge? (a b : Span) : Option Span :=
  if a.file = b.file then some ⟨a.file, min a.start b.start, max a.stop b.stop, min a.line b.line⟩
  else none

/-- A span for a node whose parts have given spans: their cover, or the first if the files differ. -/
def cover (a b : Span) : Span := (a.merge? b).getD a

/-- The span in writing. -/
def text (span : Span) : String :=
  "file#" ++ Decimal.natText span.file ++ ":" ++ Decimal.natText span.line ++ " [" ++
    Decimal.natText span.start ++ ".." ++ Decimal.natText span.stop ++ "]"

end Span

end Circuitry
