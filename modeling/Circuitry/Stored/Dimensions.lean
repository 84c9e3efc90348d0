import Circuitry.Dimension.Basic
import Circuitry.Stored.Basic

/-!
# Stored dimensions

Dimensions are stored under the names of the base dimensions, all six of them. What is stored is read back:
`Dimensions.ofStored?_stored`.
-/

set_option autoImplicit false

namespace Circuitry

/-- The name under which the exponent of a base dimension is stored. -/
def BaseDimension.storedName : BaseDimension → String
  | .mass => "mass"
  | .length => "length"
  | .angle => "angle"
  | .time => "time"
  | .current => "current"
  | .luminous => "luminous"

/-- An exponent, if it is in range. -/
def Exponent.ofStored? (stored : Stored) : Option Exponent := stored.int?.bind Exponent.ofInt?

namespace Dimensions

/-- Dimensions in stored form. -/
def stored (dims : Dimensions) : Stored :=
  .record (BaseDimension.all.map fun base => (base.storedName, .ofInt (dims.power base)))

/-- Dimensions from their stored form. -/
def ofStored? (stored : Stored) : Option Dimensions :=
  match stored.fields? (BaseDimension.all.map BaseDimension.storedName) with
  | some [some mass, some length, some angle, some time, some current, some luminous] => do
    return ⟨← Exponent.ofStored? mass, ← Exponent.ofStored? length, ← Exponent.ofStored? angle,
      ← Exponent.ofStored? time, ← Exponent.ofStored? current, ← Exponent.ofStored? luminous⟩
  | _ => none

theorem ofStored?_stored (dims : Dimensions) : ofStored? dims.stored = some dims := by
  have exponent (e : Exponent) : Exponent.ofStored? (.ofInt e.toInt) = some e :=
    Exponent.ofInt?_eq_some_iff.2 rfl
  simp [ofStored?, stored, Stored.fields?, BaseDimension.all, BaseDimension.storedName, power, exponent,
    List.lookup_cons]

end Dimensions

end Circuitry
