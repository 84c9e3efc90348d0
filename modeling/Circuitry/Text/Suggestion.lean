import Circuitry.Text.EditDistance

/-!
# Suggestions

The names closest to a misspelled one: those within a given edit distance, nearest first, cut to a given
number. Names at the same distance keep the order in which they were offered.
-/

set_option autoImplicit false

namespace Circuitry.Text

/-- Up to `limit` of `candidates` within `distance` edits of `name`, nearest first and otherwise in order. -/
def closest (name : String) (candidates : List String) (limit distance : Nat) : List String :=
  let scored := candidates.map fun candidate => (editDistance name candidate, candidate)
  let near := scored.filter fun entry => entry.1 ≤ distance
  ((near.mergeSort fun a b => a.1 ≤ b.1).take limit).map Prod.snd

end Circuitry.Text
