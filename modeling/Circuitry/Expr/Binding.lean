import Circuitry.Kernel.Capability
import Circuitry.Report.Reporting
import Circuitry.Settings

/-!
# Argument binding

The arguments of a call are matched to the parameters of a signature: arguments given by position fill the
slots from the first on, named ones the slot of their name, and defaults what is left. Then the types of
all bound arguments are checked against the constraints. Every mistake is reported, and a call with a
mistake binds nothing.
-/

set_option autoImplicit false

namespace Circuitry

/-- Adds a note that suggests names close to a misspelled one, if there are any. -/
def Settings.suggest (settings : Settings) (diagnostic : Diagnostic) (name : String)
    (candidates : List String) : Diagnostic :=
  match settings.closest name candidates with
  | [] => diagnostic
  | names => diagnostic.withNote
      ("did you mean " ++ " or ".intercalate (names.map fun close => "'" ++ close ++ "'") ++ "?")

/-- An evaluated argument, given by position unless it has a name. -/
structure Supplied where
  name : Option String
  value : Value
  span : Span

/-- What fills the slot of a parameter, and the place to blame for it. -/
structure Filler where
  value : Value
  span : Span

/-- The slots of all parameters while arguments are placed, the number of arguments given by position so
far, and the places of those for which there is no slot. -/
structure Filling where
  slots : List (Option Filler)
  positional : Nat
  excess : List Span

namespace Filling

/-- Empty slots for some parameters. -/
def start (parameters : List Parameter) : Filling := ⟨parameters.map fun _ => none, 0, []⟩

/-- What fills the slot at a position. -/
def filler? (filling : Filling) (index : Nat) : Option Filler := (filling.slots[index]?).join

/-- Fills the slot at a position. -/
def fill (filling : Filling) (index : Nat) (filler : Filler) : Filling :=
  { filling with slots := filling.slots.set index (some filler) }

/-- Places an argument given by position. It takes the next slot even if a name filled that before. -/
def placeNext (filling : Filling) (filler : Filler) : Filling :=
  let counted : Filling := { filling with positional := filling.positional + 1 }
  if filling.positional < filling.slots.length then counted.fill filling.positional filler
  else { counted with excess := filling.excess ++ [filler.span] }

/-- Places an argument given by name. -/
def placeNamed (settings : Settings) (signature : Signature) (filling : Filling) (name : String)
    (filler : Filler) : Reporting Filling :=
  match signature.index? name with
  | none =>
    let diagnostic :=
      Diagnostic.error .unknownArgument (some filler.span) ("unknown argument '" ++ name ++ "'")
    Reporting.recover
      (settings.suggest diagnostic name (signature.parameters.map Parameter.name)) filling
  | some index =>
    match filling.filler? index with
    | none => Reporting.give (filling.fill index filler)
    | some previous =>
      let diagnostic :=
        Diagnostic.error .duplicateArgument (some filler.span)
          ("argument '" ++ name ++ "' given more than once")
      Reporting.recover (diagnostic.withLabel previous.span "first given here") filling

/-- Places one argument. -/
def place (settings : Settings) (signature : Signature) (filling : Filling) (supplied : Supplied) :
    Reporting Filling :=
  let filler : Filler := ⟨supplied.value, supplied.span⟩
  match supplied.name with
  | none => Reporting.give (filling.placeNext filler)
  | some name => filling.placeNamed settings signature name filler

/-- Reports the arguments for which there was no slot. -/
def reportExcess (filling : Filling) (span : Span) : Reporting PUnit :=
  if filling.excess.isEmpty then Reporting.give ⟨⟩
  else
    let diagnostic :=
      Diagnostic.error .tooManyArguments (some span)
        ("expected at most " ++ Decimal.natText filling.slots.length ++ " arguments, got " ++
          Decimal.natText filling.positional)
    Reporting.report
      (filling.excess.foldl (fun d extra => d.withLabel extra "unexpected argument") diagnostic)

end Filling

/-- Fills an empty slot with the default of its parameter, for which the whole call is to blame. -/
def Parameter.fillSlot (span : Span) (parameter : Parameter) : Option Filler → Reporting (Option Filler)
  | some filler => Reporting.give (some filler)
  | none =>
    match parameter.fallback with
    | some value => Reporting.give (some ⟨value, span⟩)
    | none =>
      Reporting.recover
        (Diagnostic.error .missingArgument (some span) ("missing argument '" ++ parameter.name ++ "'"))
        none

/-- Fills the empty slots with the defaults of their parameters. -/
def Parameter.fillSlots (span : Span) : List Parameter → List (Option Filler) →
    Reporting (List (Option Filler))
  | parameter :: parameters, slot :: slots => do
    let first ← parameter.fillSlot span slot
    let rest ← Parameter.fillSlots span parameters slots
    return first :: rest
  | _, slots => Reporting.give slots

namespace Signature

/-- Checks the slot at a position against its parameter, given the types of all arguments. Empty slots and
placeholders pass. -/
def checkSlot (signature : Signature) (types : List (Option Ty)) (index : Nat) (parameter : Parameter)
    (slot : Option Filler) : Reporting PUnit :=
  match slot with
  | none => Reporting.give ⟨⟩
  | some filler =>
    match filler.value.ty? with
    | none => Reporting.give ⟨⟩
    | some ty => do
      if ← signature.accepts index ty types then return ⟨⟩
      else
        let expected ← signature.constraintText index
        let found ← ty.text
        Reporting.report
          (Diagnostic.error .argumentType (some filler.span)
            ("argument '" ++ parameter.name ++ "' expects " ++ expected ++ ", found " ++ found))

/-- Checks all slots from a position on against their parameters. -/
def checkSlots (signature : Signature) (types : List (Option Ty)) : Nat → List Parameter →
    List (Option Filler) → Reporting PUnit
  | index, parameter :: parameters, slot :: slots => do
    signature.checkSlot types index parameter slot
    signature.checkSlots types (index + 1) parameters slots
  | _, _, _ => Reporting.give ⟨⟩

/-- The type of what fills a slot, if it has one. -/
def slotType? (slot : Option Filler) : Option Ty := slot.bind fun filler => filler.value.ty?

/-- The values that arguments give to all parameters, by position, unless a mistake is reported. -/
def bind (signature : Signature) (settings : Settings) (supplied : List Supplied) (span : Span) :
    Reporting (Option (List Value)) :=
  Reporting.ifSilent do
    let filling ← supplied.foldlM (Filling.place settings signature) (Filling.start signature.parameters)
    filling.reportExcess span
    let slots ← Parameter.fillSlots span signature.parameters filling.slots
    signature.checkSlots (slots.map slotType?) 0 signature.parameters slots
    return slots.map fun slot => (slot.map Filler.value).getD .placeholder

end Signature

end Circuitry
