import Circuitry.Quantity.Basic
import Circuitry.Text.Suggestion

/-!
# Settings

How diagnostics suggest names and how values are shown. No setting changes what an evaluation gives.
-/

set_option autoImplicit false

namespace Circuitry

/-- The settings of an evaluation. -/
structure Settings where
  /-- How many names a diagnostic suggests at most. -/
  suggestionLimit : Nat
  /-- How many edits away a suggested name may be. -/
  suggestionDistance : Nat
  /-- How many fractional digits of a magnitude are shown at most. -/
  displayDigits : Nat
  deriving DecidableEq, Repr

namespace Settings

def standard : Settings := ⟨3, 2, Quantity.displayDigits⟩

/-- The names close to a misspelled one, as far and as many as the settings allow. -/
def closest (settings : Settings) (name : String) (candidates : List String) : List String :=
  Text.closest name candidates settings.suggestionLimit settings.suggestionDistance

/-- The largest number of digits that makes sense. -/
def maxDisplayDigits : Nat := 64

/-- The largest number of edits that makes sense. -/
def maxSuggestionDistance : Nat := 8

end Settings

/-- Why settings make no sense. -/
inductive SettingsError where
  | displayDigits (value : Nat)
  | suggestionDistance (value : Nat)
  deriving DecidableEq, Repr

/-- The error in words. -/
def SettingsError.message : SettingsError → String
  | .displayDigits value =>
    "display_digits must be between 1 and " ++ Decimal.natText Settings.maxDisplayDigits ++ ", got " ++
      Decimal.natText value
  | .suggestionDistance value =>
    "suggestion_distance must be at most " ++ Decimal.natText Settings.maxSuggestionDistance ++ ", got " ++
      Decimal.natText value

/-- What is wrong with some settings, if anything is; the number of digits is checked first. -/
def Settings.error? (settings : Settings) : Option SettingsError :=
  if settings.displayDigits = 0 || Settings.maxDisplayDigits < settings.displayDigits then
    some (.displayDigits settings.displayDigits)
  else if Settings.maxSuggestionDistance < settings.suggestionDistance then
    some (.suggestionDistance settings.suggestionDistance)
  else none

end Circuitry
