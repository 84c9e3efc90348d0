import Circuitry.Expr.Binding
import Circuitry.Proofs.Kernel.Matching
import Circuitry.Proofs.Report.Reporting

/-!
# Placing arguments

Which slot an argument goes to, and what is reported of it, depends on names and positions alone. So two calls
whose arguments differ only in their values fill the same slots, one value standing where the other one does,
and report alike. Nothing is said here of how the values are related.
-/

set_option autoImplicit false

namespace Circuitry

variable {related : Value → Value → Prop}

/-! ### Related parameters, arguments and slots -/

/-- Two parameters have the same name and related defaults. -/
structure Parameter.Alike (related : Value → Value → Prop) (parameter other : Parameter) : Prop where
  name : parameter.name = other.name
  fallback : Option.Rel related parameter.fallback other.fallback

theorem Parameter.Alike.imp {weaker : Value → Value → Prop} {parameter other : Parameter}
    (alike : parameter.Alike related other) (weaken : ∀ value value', related value value' → weaker value value') :
    parameter.Alike weaker other :=
  ⟨alike.name, rel_imp alike.fallback fun _ _ _ _ => weaken _ _⟩

/-- Two arguments differ at most in their values, which are related. -/
structure Supplied.Alike (related : Value → Value → Prop) (supplied other : Supplied) : Prop where
  name : supplied.name = other.name
  value : related supplied.value other.value
  span : supplied.span = other.span

/-- Two fillers differ at most in their values, which are related. -/
structure Filler.Alike (related : Value → Value → Prop) (filler other : Filler) : Prop where
  value : related filler.value other.value
  span : filler.span = other.span

/-- The same slots are filled, with related values. -/
abbrev SlotsAlike (related : Value → Value → Prop) : List (Option Filler) → List (Option Filler) → Prop :=
  List.Forall₂ (Option.Rel (Filler.Alike related))

/-- Two states of placing arguments for `count` parameters differ at most in values, which are related. -/
structure Filling.Alike (related : Value → Value → Prop) (count : Nat) (filling other : Filling) : Prop where
  length : filling.slots.length = count
  slots : SlotsAlike related filling.slots other.slots
  positional : filling.positional = other.positional
  excess : filling.excess = other.excess

theorem Signature.index?_eq {signature other : Signature}
    (parameters : List.Forall₂ (Parameter.Alike related) signature.parameters other.parameters)
    (name : String) : signature.index? name = other.index? name := by
  have names : signature.parameters.map Parameter.name = other.parameters.map Parameter.name := by
    generalize signature.parameters = items at parameters
    generalize other.parameters = others at parameters
    induction parameters with
    | nil => rfl
    | cons head _ ih => simp [head.name, ih]
  have listed : ∀ s : Signature, s.index? name = (s.parameters.map Parameter.name).findIdx? (· = name) := by
    intro s
    simp [Signature.index?, List.findIdx?_map, Function.comp_def]
  rw [listed, listed, names]

namespace Filling

theorem start_alike {parameters others : List Parameter}
    (pairs : List.Forall₂ (Parameter.Alike related) parameters others) :
    (start parameters).Alike related parameters.length (start others) := by
  refine ⟨by simp [start], ?_, rfl, rfl⟩
  induction pairs with
  | nil => exact .nil
  | cons _ _ ih => exact .cons .none ih

variable {count : Nat}

theorem filler?_alike {filling other : Filling} (alike : filling.Alike related count other) (index : Nat) :
    Option.Rel (Filler.Alike related) (filling.filler? index) (other.filler? index) := by
  unfold filler?
  have found := forall₂_getElem? alike.slots index
  generalize filling.slots[index]? = slot at found
  generalize other.slots[index]? = slot' at found
  cases found with
  | some slot => exact slot
  | none => exact .none

theorem fill_alike {filling other : Filling} (alike : filling.Alike related count other) (index : Nat)
    {filler filler' : Filler} (fillers : filler.Alike related filler') :
    (filling.fill index filler).Alike related count (other.fill index filler') :=
  ⟨by simp [fill, alike.length], forall₂_set alike.slots index (.some fillers), alike.positional, alike.excess⟩

theorem placeNext_alike {filling other : Filling} (alike : filling.Alike related count other)
    {filler filler' : Filler} (fillers : filler.Alike related filler') :
    (filling.placeNext filler).Alike related count (other.placeNext filler') := by
  obtain ⟨slots, positional, excess⟩ := filling
  obtain ⟨slots', positional', excess'⟩ := other
  obtain ⟨length, alike, rfl, rfl⟩ := alike
  simp only [placeNext, alike.length_eq]
  split
  · exact ⟨by simpa [fill] using length, forall₂_set alike positional (.some fillers), rfl, rfl⟩
  · exact ⟨length, alike, rfl, by simp [fillers.span]⟩

/-- Suggestions are words. -/
theorem suggest_alike (settings : Settings) (diagnostic : Diagnostic) (name : String)
    (candidates : List String) : (settings.suggest diagnostic name candidates).Alike diagnostic := by
  unfold Settings.suggest
  split <;> exact ⟨rfl, rfl, rfl, rfl⟩

theorem place_alike {signature signature' : Signature} (settings settings' : Settings)
    (parameters : List.Forall₂ (Parameter.Alike related) signature.parameters signature'.parameters)
    {filling other : Filling} (alike : filling.Alike related count other) {supplied supplied' : Supplied}
    (pair : supplied.Alike related supplied') :
    Reporting.Alike (Filling.Alike related count) (filling.place settings signature supplied)
      (other.place settings' signature' supplied') := by
  obtain ⟨name, value, span⟩ := supplied
  obtain ⟨name', value', span'⟩ := supplied'
  obtain ⟨rfl, values, rfl⟩ := pair
  cases name with
  | none => exact .give (placeNext_alike alike ⟨values, rfl⟩)
  | some name =>
    simp only [place, placeNamed, ← Signature.index?_eq parameters name]
    cases signature.index? name with
    | none =>
      exact .recover ((suggest_alike ..).trans (.trans (.error _ _ _ _) (suggest_alike ..).symm)) alike
    | some index =>
      have fillers := filler?_alike alike index
      simp only
      cases before : filling.filler? index with
      | none =>
        rw [before] at fillers
        cases after : other.filler? index with
        | none => exact .give (fill_alike alike index ⟨values, rfl⟩)
        | some previous' =>
          rw [after] at fillers
          cases fillers
      | some previous =>
        rw [before] at fillers
        cases after : other.filler? index with
        | none =>
          rw [after] at fillers
          cases fillers
        | some previous' =>
          rw [after] at fillers
          cases fillers with
          | some fillers =>
            simp only [fillers.span]
            exact .recover (.withLabel (.error _ _ _ _) _ _ _) alike

theorem placeAll_alike {signature signature' : Signature} (settings settings' : Settings)
    (parameters : List.Forall₂ (Parameter.Alike related) signature.parameters signature'.parameters)
    {supplied supplied' : List Supplied} (pairs : List.Forall₂ (Supplied.Alike related) supplied supplied')
    {filling other : Filling} (alike : filling.Alike related count other) :
    Reporting.Alike (Filling.Alike related count) (supplied.foldlM (place settings signature) filling)
      (supplied'.foldlM (place settings' signature') other) := by
  induction pairs generalizing filling other with
  | nil => exact .give alike
  | cons pair _ ih => exact (place_alike settings settings' parameters alike pair).bind fun _ _ => ih

theorem reportExcess_alike {filling other : Filling} (alike : filling.Alike related count other) (span : Span) :
    Reporting.Alike (fun _ _ => True) (filling.reportExcess span) (other.reportExcess span) := by
  unfold reportExcess
  rw [alike.excess, alike.slots.length_eq, alike.positional]
  split
  · exact .give trivial
  · exact .recover ⟨rfl, rfl, rfl, rfl⟩ trivial

end Filling

theorem Parameter.fillSlots_alike {parameters others : List Parameter}
    (pairs : List.Forall₂ (Parameter.Alike related) parameters others) (span : Span)
    {slots slots' : List (Option Filler)} (length : slots.length = parameters.length)
    (alike : SlotsAlike related slots slots') :
    Reporting.Alike (fun slots slots' => slots.length = parameters.length ∧ SlotsAlike related slots slots')
      (Parameter.fillSlots span parameters slots) (Parameter.fillSlots span others slots') := by
  induction pairs generalizing slots slots' with
  | nil => exact .give ⟨length, alike⟩
  | @cons parameter other _ _ pair _ ih =>
    cases alike with
    | nil => cases length
    | @cons slot slot' _ _ head tail =>
      have first : Reporting.Alike (Option.Rel (Filler.Alike related)) (parameter.fillSlot span slot)
          (other.fillSlot span slot') := by
        cases head with
        | some fillers => exact .give (.some fillers)
        | none =>
          have fallbacks := pair.fallback
          unfold Parameter.fillSlot
          generalize parameter.fallback = fallback at fallbacks
          generalize other.fallback = fallback' at fallbacks
          cases fallbacks with
          | some values => exact .give (.some ⟨values, rfl⟩)
          | none => exact .recover (.error _ _ _ _) .none
      exact first.bind fun _ _ heads => (ih (by simpa using length) tail).bind fun _ _ tails =>
        .give ⟨by simp [tails.1], .cons heads tails.2⟩

namespace Signature

/-- The slots once all arguments are placed and defaults are filled in, before any type is checked. -/
def filled (signature : Signature) (settings : Settings) (supplied : List Supplied) (span : Span) :
    Reporting (List (Option Filler)) := do
  let filling ← supplied.foldlM (Filling.place settings signature) (Filling.start signature.parameters)
  filling.reportExcess span
  Parameter.fillSlots span signature.parameters filling.slots

/-- Placing arguments pays no attention to their values. -/
theorem filled_alike {signature other : Signature} (settings settings' : Settings)
    (parameters : List.Forall₂ (Parameter.Alike related) signature.parameters other.parameters)
    {supplied supplied' : List Supplied} (pairs : List.Forall₂ (Supplied.Alike related) supplied supplied')
    (span : Span) :
    Reporting.Alike
      (fun slots slots' => slots.length = signature.parameters.length ∧ SlotsAlike related slots slots')
      (signature.filled settings supplied span) (other.filled settings' supplied' span) := by
  refine (Filling.placeAll_alike settings settings' parameters pairs
    (Filling.start_alike parameters)).bind fun filling filling' alike => ?_
  exact (Filling.reportExcess_alike alike span).bind fun _ _ _ =>
    Parameter.fillSlots_alike parameters span alike.length alike.slots

end Signature

end Circuitry
