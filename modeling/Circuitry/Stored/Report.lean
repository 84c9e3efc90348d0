import Circuitry.Report.Diagnostic
import Circuitry.Stored.Basic

/-!
# Stored diagnostics

Kinds and severities are stored by name. A diagnostic without a place may leave it out or store nothing
there; all its other fields are required. What is stored is read back (`Diagnostic.ofStored?_stored`),
provided that the numbers of all spans are in range (`Span.Storable`).
-/

set_option autoImplicit false

namespace Circuitry

/-! ### Spans -/

namespace Span

/-- Files and lines in stored spans are below this limit. -/
def fileLimit : Nat := 65536

/-- Bytes in stored spans are below this limit. -/
def byteLimit : Nat := 4294967296

/-- Whether all numbers of a span are in range. -/
def Storable (span : Span) : Prop :=
  span.file < fileLimit ∧ span.start < byteLimit ∧ span.stop < byteLimit ∧ span.line < fileLimit

/-- A span in stored form. -/
def stored (span : Span) : Stored :=
  .record
    [("file_id", .ofNat span.file), ("start", .ofNat span.start), ("end", .ofNat span.stop),
     ("start_line", .ofNat span.line)]

/-- A span from its stored form. -/
def ofStored? (stored : Stored) : Option Span :=
  match stored.fields? ["file_id", "start", "end", "start_line"] with
  | some [some file, some start, some stop, some line] => do
    return ⟨← file.nat? fileLimit, ← start.nat? byteLimit, ← stop.nat? byteLimit, ← line.nat? fileLimit⟩
  | _ => none

theorem ofStored?_stored {span : Span} (storable : span.Storable) :
    ofStored? span.stored = some span := by
  obtain ⟨file, start, stop, line⟩ := storable
  have fields : span.stored.fields? ["file_id", "start", "end", "start_line"] =
      some [some (.ofNat span.file), some (.ofNat span.start), some (.ofNat span.stop),
        some (.ofNat span.line)] := rfl
  simp only [ofStored?, fields, Stored.nat?_ofNat file, Stored.nat?_ofNat start,
    Stored.nat?_ofNat stop, Stored.nat?_ofNat line]
  rfl

end Span

/-! ### Kinds and severities -/

namespace DiagnosticKind

/-- The name under which a kind is stored. -/
def storedName : DiagnosticKind → String
  | .undefinedSymbol => "UndefinedSymbol"
  | .invalidOperands => "InvalidOperands"
  | .unknownAttribute => "UnknownAttribute"
  | .invalidIndex => "InvalidIndex"
  | .divisionByZero => "DivisionByZero"
  | .indeterminateType => "IndeterminateType"
  | .notCallable => "NotCallable"
  | .duplicateArgument => "DuplicateArgument"
  | .unknownArgument => "UnknownArgument"
  | .missingArgument => "MissingArgument"
  | .tooManyArguments => "TooManyArguments"
  | .argumentType => "ArgumentType"
  | .callFailed => "CallFailed"
  | .cyclicDependency => "CyclicDependency"
  | .duplicateDefinition => "DuplicateDefinition"
  | .duplicateExport => "DuplicateExport"
  | .internal => "Internal"

/-- All kinds. -/
def all : List DiagnosticKind :=
  [.undefinedSymbol, .invalidOperands, .unknownAttribute, .invalidIndex, .divisionByZero,
   .indeterminateType, .notCallable, .duplicateArgument, .unknownArgument, .missingArgument,
   .tooManyArguments, .argumentType, .callFailed, .cyclicDependency, .duplicateDefinition,
   .duplicateExport, .internal]

/-- A kind from its stored form. -/
def ofStored? (stored : Stored) : Option DiagnosticKind :=
  stored.choice? (all.map fun kind => (kind.storedName, kind))

theorem ofStored?_storedName (kind : DiagnosticKind) :
    ofStored? (.text kind.storedName) = some kind := by
  cases kind <;> rfl

end DiagnosticKind

namespace Severity

/-- The name under which a severity is stored. -/
def storedName : Severity → String
  | .note => "Note"
  | .warning => "Warning"
  | .error => "Error"

/-- A severity from its stored form. -/
def ofStored? (stored : Stored) : Option Severity :=
  stored.choice? ([Severity.note, .warning, .error].map fun severity => (severity.storedName, severity))

theorem ofStored?_storedName (severity : Severity) :
    ofStored? (.text severity.storedName) = some severity := by
  cases severity <;> rfl

end Severity

/-! ### Diagnostics -/

namespace Label

/-- A label in stored form. -/
def stored (label : Label) : Stored :=
  .record [("span", label.span.stored), ("message", .text label.message)]

/-- A label from its stored form. -/
def ofStored? (stored : Stored) : Option Label :=
  match stored.fields? ["span", "message"] with
  | some [some span, some message] => do return ⟨← Span.ofStored? span, ← message.text?⟩
  | _ => none

theorem ofStored?_stored {label : Label} (storable : label.span.Storable) :
    ofStored? label.stored = some label := by
  have fields : label.stored.fields? ["span", "message"] =
      some [some label.span.stored, some (.text label.message)] := rfl
  simp only [ofStored?, fields, Span.ofStored?_stored storable, Stored.text?_text]
  rfl

end Label

namespace Diagnostic

/-- A place that may be missing, in stored form. -/
def storedPlace : Option Span → Stored
  | some span => span.stored
  | none => .null

/-- A place that may be missing, from its stored form. -/
def placeOfStored? : Option Stored → Option (Option Span)
  | none => some none
  | some .null => some none
  | some stored => (Span.ofStored? stored).map some

/-- A diagnostic in stored form. -/
def stored (diagnostic : Diagnostic) : Stored :=
  .record
    [("kind", .text diagnostic.kind.storedName),
     ("severity", .text diagnostic.severity.storedName),
     ("span", storedPlace diagnostic.span),
     ("message", .text diagnostic.message),
     ("labels", .list (diagnostic.labels.map Label.stored)),
     ("notes", .list (diagnostic.notes.map Stored.text))]

/-- The names of the fields of a stored diagnostic. -/
def storedNames : List String := ["kind", "severity", "span", "message", "labels", "notes"]

/-- A diagnostic from its stored form. -/
def ofStored? (stored : Stored) : Option Diagnostic :=
  match stored.fields? storedNames with
  | some [some kind, some severity, place, some message, some labels, some notes] => do
    return {
      kind := ← DiagnosticKind.ofStored? kind
      severity := ← Severity.ofStored? severity
      span := ← placeOfStored? place
      message := ← message.text?
      labels := ← (← labels.list?).mapM Label.ofStored?
      notes := ← (← notes.list?).mapM Stored.text? }
  | _ => none

theorem placeOfStored?_storedPlace {place : Option Span} (storable : ∀ span ∈ place, span.Storable) :
    placeOfStored? (some (storedPlace place)) = some place := by
  cases place with
  | none => rfl
  | some span =>
    have read := Span.ofStored?_stored (storable span rfl)
    simpa [placeOfStored?, storedPlace, Span.stored] using congrArg (Option.map some) read

theorem mapM_ofStored?_stored {labels : List Label} (storable : ∀ label ∈ labels, label.span.Storable) :
    (labels.map Label.stored).mapM Label.ofStored? = some labels := by
  induction labels with
  | nil => rfl
  | cons label rest ih =>
    simp only [List.forall_mem_cons] at storable
    simp [List.mapM_cons, Label.ofStored?_stored storable.1, ih storable.2]

theorem mapM_text?_text (notes : List String) :
    (notes.map Stored.text).mapM Stored.text? = some notes := by
  induction notes with
  | nil => rfl
  | cons note rest ih => simp [List.mapM_cons, Stored.text?_text, ih]

theorem ofStored?_stored {diagnostic : Diagnostic} (place : ∀ span ∈ diagnostic.span, span.Storable)
    (labels : ∀ label ∈ diagnostic.labels, label.span.Storable) :
    ofStored? diagnostic.stored = some diagnostic := by
  have fields : diagnostic.stored.fields? storedNames =
      some [some (.text diagnostic.kind.storedName), some (.text diagnostic.severity.storedName),
        some (storedPlace diagnostic.span), some (.text diagnostic.message),
        some (.list (diagnostic.labels.map Label.stored)),
        some (.list (diagnostic.notes.map Stored.text))] := rfl
  simp only [ofStored?, fields, DiagnosticKind.ofStored?_storedName, Severity.ofStored?_storedName,
    placeOfStored?_storedPlace place, Stored.text?_text, Stored.list?_list, Option.bind_eq_bind,
    Option.bind_some, mapM_ofStored?_stored labels, mapM_text?_text]
  rfl

end Diagnostic

end Circuitry
