import Circuitry.Settings
import Circuitry.Stored.Basic

/-!
# Stored settings

What stored settings leave out is as in the standard settings. A list may leave out its last items. Numbers
that make no sense are read nevertheless: they are for `Settings.error?` to refuse.
-/

set_option autoImplicit false

namespace Circuitry.Settings

/-- Numbers in stored settings are below this limit. -/
def storedLimit : Nat := 18446744073709551616

/-- Settings in stored form. -/
def stored (settings : Settings) : Stored :=
  .record
    [("suggestion_limit", .ofNat settings.suggestionLimit),
     ("suggestion_distance", .ofNat settings.suggestionDistance),
     ("display_digits", .ofNat settings.displayDigits)]

/-- The fields of stored settings, each if it is there. -/
def storedFields? : Stored → Option (Option Stored × Option Stored × Option Stored)
  | .record fields =>
    some (fields.lookup "suggestion_limit", fields.lookup "suggestion_distance",
      fields.lookup "display_digits")
  | .list items => if items.length ≤ 3 then some (items[0]?, items[1]?, items[2]?) else none
  | _ => none

/-- A number, or the usual one if it is left out. -/
def numberOr? (usual : Nat) : Option Stored → Option Nat
  | none => some usual
  | some stored => stored.nat? storedLimit

/-- Settings from their stored form. -/
def ofStored? (stored : Stored) : Option Settings :=
  match storedFields? stored with
  | some (limit, distance, digits) => do
    return ⟨← numberOr? standard.suggestionLimit limit,
      ← numberOr? standard.suggestionDistance distance, ← numberOr? standard.displayDigits digits⟩
  | none => none

theorem ofStored?_stored {settings : Settings} (limit : settings.suggestionLimit < storedLimit)
    (distance : settings.suggestionDistance < storedLimit)
    (digits : settings.displayDigits < storedLimit) : ofStored? settings.stored = some settings := by
  have fields : storedFields? settings.stored =
      some (some (.ofNat settings.suggestionLimit), some (.ofNat settings.suggestionDistance),
        some (.ofNat settings.displayDigits)) := rfl
  simp only [ofStored?, fields, numberOr?, Stored.nat?_ofNat limit, Stored.nat?_ofNat distance,
    Stored.nat?_ofNat digits]
  rfl

end Circuitry.Settings
