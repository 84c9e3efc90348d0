import Circuitry.Report.Span

/-!
# Diagnostics

A diagnostic reports one mistake in a circuit description, or one doubt about it: what kind it is, how
severe, where, and in which words. Labels point to further places, and notes add remarks.
-/

set_option autoImplicit false

namespace Circuitry

/-- What a diagnostic is about. -/
inductive DiagnosticKind where
  | undefinedSymbol
  | invalidOperands
  | unknownAttribute
  | invalidIndex
  | divisionByZero
  | indeterminateType
  | notCallable
  | duplicateArgument
  | unknownArgument
  | missingArgument
  | tooManyArguments
  | argumentType
  | callFailed
  | cyclicDependency
  | duplicateDefinition
  | duplicateExport
  | internal
  deriving DecidableEq, Repr

/-- The kind in words. -/
def DiagnosticKind.text : DiagnosticKind → String
  | .undefinedSymbol => "undefined symbol"
  | .invalidOperands => "invalid operands"
  | .unknownAttribute => "unknown attribute"
  | .invalidIndex => "invalid index"
  | .divisionByZero => "division by zero"
  | .indeterminateType => "indeterminate type"
  | .notCallable => "not callable"
  | .duplicateArgument => "duplicate argument"
  | .unknownArgument => "unknown argument"
  | .missingArgument => "missing argument"
  | .tooManyArguments => "too many arguments"
  | .argumentType => "argument type mismatch"
  | .callFailed => "call failed"
  | .cyclicDependency => "dependency cycle"
  | .duplicateDefinition => "duplicate definition"
  | .duplicateExport => "duplicate export"
  | .internal => "internal error"

/-- How grave a diagnostic is. -/
inductive Severity where
  | note
  | warning
  | error
  deriving DecidableEq, Repr

/-- The severity in words. -/
def Severity.text : Severity → String
  | .note => "note"
  | .warning => "warning"
  | .error => "error"

/-- The place of a severity among all, the gravest last. -/
def Severity.rank : Severity → Nat
  | .note => 0
  | .warning => 1
  | .error => 2

/-- A further place with an explanation. -/
structure Label where
  span : Span
  message : String
  deriving DecidableEq, Repr

/-- One mistake or doubt. -/
structure Diagnostic where
  kind : DiagnosticKind
  severity : Severity
  /-- Where it is, if it has a place. -/
  span : Option Span
  message : String
  labels : List Label
  notes : List String
  deriving DecidableEq, Repr

namespace Diagnostic

/-- An error without labels and notes. -/
def error (kind : DiagnosticKind) (span : Option Span) (message : String) : Diagnostic :=
  ⟨kind, .error, span, message, [], []⟩

/-- A warning without labels and notes. -/
def warning (kind : DiagnosticKind) (span : Option Span) (message : String) : Diagnostic :=
  ⟨kind, .warning, span, message, [], []⟩

/-- The diagnostic with one more label. -/
def withLabel (diagnostic : Diagnostic) (span : Span) (message : String) : Diagnostic :=
  { diagnostic with labels := diagnostic.labels ++ [⟨span, message⟩] }

/-- The diagnostic with one more note. -/
def withNote (diagnostic : Diagnostic) (note : String) : Diagnostic :=
  { diagnostic with notes := diagnostic.notes ++ [note] }

def isError (diagnostic : Diagnostic) : Bool := diagnostic.severity = .error

/-- Severity, kind and message in one line. -/
def text (diagnostic : Diagnostic) : String :=
  diagnostic.severity.text ++ ": " ++ diagnostic.kind.text ++ ": " ++ diagnostic.message

/-- Whether one of some diagnostics is an error. -/
def hasErrors (diagnostics : List Diagnostic) : Bool := diagnostics.any isError

/-- The gravest severity among some diagnostics. -/
def worst? (diagnostics : List Diagnostic) : Option Severity :=
  diagnostics.foldl
    (fun worst diagnostic =>
      match worst with
      | none => some diagnostic.severity
      | some severity =>
        if severity.rank ≤ diagnostic.severity.rank then some diagnostic.severity else some severity)
    none

end Diagnostic

end Circuitry
