/-!
# Edit distance

The least number of insertions, deletions and substitutions of single characters that turn one text
into another. The distances between the starts of the two texts are computed row by row, one row for each
start of the first text. Only two rows are kept, and each new row is written over the older one of them.
-/

set_option autoImplicit false

namespace Circuitry.Text

/-- Two rows of distances to the starts of the second text, the empty start first. -/
structure Rows where
  /-- The distances from what has been read of the first text. -/
  previous : Array Nat
  /-- The row that is filled next. What it holds until then belongs to an earlier start. -/
  current : Array Nat

namespace Rows

/-- The distances from the empty text. The other row is still without meaning. -/
def start (length : Nat) : Rows := ⟨Array.range (length + 1), Array.replicate (length + 1) 0⟩

/-- Fills the entry behind `place`, where `d` stands in the second text and the row is that of `c`. It is the
cheapest of keeping or substituting `c`, deleting it, and inserting `d`. -/
def fill (c : Char) (rows : Rows) (d : Char) (place : Nat) : Rows :=
  let substituted := rows.previous[place]?.getD 0 + (if c = d then 0 else 1)
  let deleted := rows.previous[place + 1]?.getD 0 + 1
  let inserted := rows.current[place]?.getD 0 + 1
  { rows with current := rows.current.setIfInBounds (place + 1) (min (min substituted deleted) inserted) }

/-- Fills the entries behind all characters of the second text, or of its end from a place on. -/
def fillAll (c : Char) (rows : Rows) (b : List Char) (place : Nat) : Rows :=
  (b.zipIdx place).foldl (fun rows (d, place) => rows.fill c d place) rows

/-- Reads one more character of the first text: fills the row of the start that it completes, and exchanges
the rows. -/
def read (b : List Char) (rows : Rows) (c : Char) (place : Nat) : Rows :=
  let filled := fillAll c { rows with current := rows.current.setIfInBounds 0 (place + 1) } b 0
  ⟨filled.current, filled.previous⟩

/-- Reads characters of the first text from a place on. -/
def readAll (b : List Char) (rows : Rows) (a : List Char) (place : Nat) : Rows :=
  (a.zipIdx place).foldl (fun rows (c, place) => rows.read b c place) rows

end Rows

/-- The edit distance of two texts, counted in characters. -/
def editDistance (a b : String) : Nat :=
  let rows := (Rows.start b.toList.length).readAll b.toList a.toList 0
  rows.previous[b.toList.length]?.getD 0

end Circuitry.Text
