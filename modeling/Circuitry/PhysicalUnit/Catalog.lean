import Circuitry.Dimension.Named
import Circuitry.PhysicalUnit.Basic
import Circuitry.Text.Suggestion

/-!
# Unit catalogs

A catalog gives units names, in the order of registration. The standard catalog holds the SI units that
circuits need: those that take a metric multiple, each with all its multiples, and a few that stand alone.
-/

set_option autoImplicit false

namespace Circuitry

/-- Units under names. -/
structure Catalog where
  /-- The registered names with their units, the first registered first. -/
  entries : List (String × PhysicalUnit)

namespace Catalog

def empty : Catalog := ⟨[]⟩

/-- All names, in the order of registration. -/
def names (catalog : Catalog) : List String := catalog.entries.map Prod.fst

/-- The unit under a name. The empty name stands for `1`. -/
def find? (catalog : Catalog) (name : String) : Option PhysicalUnit :=
  catalog.entries.lookup (if name.isEmpty then "1" else name)

/-- Registers a unit under a name that is still free. -/
def register? (catalog : Catalog) (name : String) (unit : PhysicalUnit) : Option Catalog :=
  if catalog.names.contains name then none else some ⟨catalog.entries ++ [(name, unit)]⟩

/-- Registers units under their symbols, up to the first whose symbol is taken, which is returned. -/
def registerAll (catalog : Catalog) : List PhysicalUnit → Catalog × Option String
  | [] => (catalog, none)
  | unit :: rest =>
    match catalog.register? unit.symbol unit with
    | none => (catalog, some unit.symbol)
    | some extended => extended.registerAll rest

/-- The metric multiples with their powers of ten. Micro has two spellings. -/
def multiples : List (String × Int) :=
  [("T", 12), ("G", 9), ("M", 6), ("k", 3), ("m", -3), ("u", -6), ("µ", -6), ("n", -9), ("p", -12),
   ("f", -15)]

/-- The metric multiples of a unit, followed by the unit itself. -/
def withMultiples (unit : PhysicalUnit) : List PhysicalUnit :=
  multiples.map (fun (letter, power) => unit.scaledByTen (letter ++ unit.symbol) power) ++ [unit]

/-- The number of names that `suggest` gives at most. -/
def suggestionLimit : Nat := 3

/-- The number of edits that `suggest` allows. -/
def suggestionDistance : Nat := 2

/-- Up to `limit` registered names within `distance` edits of a misspelled one, nearest first. -/
def suggestWithin (catalog : Catalog) (name : String) (limit distance : Nat) : List String :=
  Text.closest name catalog.names limit distance

/-- The registered names closest to a misspelled one, within the usual bounds. -/
def suggest (catalog : Catalog) (name : String) : List String :=
  catalog.suggestWithin name suggestionLimit suggestionDistance

/-! ### The standard catalog -/

/-- The unit whose scale is a ratio of positive numbers. -/
def sized (symbol : String) (dims : Dimensions) (numerator denominator : Nat)
    (positive : 0 < numerator ∧ 0 < denominator := by decide) : PhysicalUnit :=
  { symbol, dims, scale := (numerator : Rat) / (denominator : Rat)
    scale_pos := by
      rw [Rat.div_def]
      exact Rat.mul_pos (Rat.natCast_pos.2 positive.1) (Rat.inv_pos.2 (Rat.natCast_pos.2 positive.2)) }

/-- The units that take metric multiples. Mass is based on the gram, so that the kilogram is one. -/
def metricUnits : List PhysicalUnit :=
  [sized "g" .ofMass 1 1000,
   .coherent "m" .ofLength,
   .coherent "rad" .ofAngle,
   .coherent "s" .ofTime,
   .coherent "A" .ofCurrent,
   .coherent "cd" .ofLuminous,
   .coherent "V" .voltage,
   .coherent "ohm" .resistance,
   .coherent "Ω" .resistance,
   .coherent "F" .capacitance,
   .coherent "H" .inductance,
   .coherent "W" .electricPower,
   .coherent "Hz" .frequency,
   .coherent "C" .charge,
   .coherent "S" .conductance,
   .coherent "J" .energy,
   .coherent "N" .force]

/-- The units without multiples. -/
def plainUnits : List PhysicalUnit :=
  [sized "cm" .ofLength 1 100,
   sized "in" .ofLength 254 10000,
   sized "mil" .ofLength 254 10000000,
   sized "min" .ofTime 60 1,
   sized "h" .ofTime 3600 1]

/-- The names for ratios. -/
def ratioUnits : List (String × PhysicalUnit) :=
  [("1", .one),
   ("%", sized "%" .dimensionless 1 100),
   ("ppm", sized "ppm" .dimensionless 1 1000000)]

/-- The standard catalog. -/
def standard : Catalog :=
  let bySymbol (unit : PhysicalUnit) := (unit.symbol, unit)
  ⟨(metricUnits.flatMap withMultiples).map bySymbol ++ plainUnits.map bySymbol ++ ratioUnits⟩

end Catalog

end Circuitry
