import Circuitry.Expr.Evaluation
import Circuitry.Proofs.Expr.Placement
import Circuitry.Proofs.Report.Account

/-!
# What each node reports

Every node of an expression reports mistakes of its own kinds only, whatever the values that meet in it and
whatever the host makes of them.
-/

set_option autoImplicit false

namespace Circuitry

open Reporting (ReportsOnly)

/-! ### Binding -/

/-- Whether a mistake of this kind is one in the arguments of a call. -/
def DiagnosticKind.concernsArguments : DiagnosticKind → Bool
  | .duplicateArgument | .unknownArgument | .missingArgument | .tooManyArguments | .argumentType => true
  | _ => false

/-- An error in the arguments of a call. -/
def Diagnostic.OfArguments (diagnostic : Diagnostic) : Prop :=
  diagnostic.isError = true ∧ diagnostic.kind.concernsArguments = true

theorem Diagnostic.OfArguments.of_alike {diagnostic other : Diagnostic} (alike : diagnostic.Alike other)
    (ofArguments : other.OfArguments) : diagnostic.OfArguments := by
  rw [OfArguments, alike.isError, alike.kind]
  exact ofArguments

theorem Diagnostic.OfArguments.ne_undefinedSymbol {diagnostic : Diagnostic} (ofArguments : diagnostic.OfArguments) :
    diagnostic.kind ≠ .undefinedSymbol := by
  intro same
  have concerns := ofArguments.2
  rw [same] at concerns
  cases concerns

namespace Filling

theorem place_reports (settings : Settings) (signature : Signature) (filling : Filling) (supplied : Supplied) :
    ReportsOnly Diagnostic.OfArguments (filling.place settings signature supplied) := by
  unfold place
  split
  · exact .give _
  · unfold placeNamed
    split
    · exact .recover (.of_alike (suggest_alike ..) ⟨rfl, rfl⟩) _
    · split
      · exact .give _
      · exact .recover ⟨rfl, rfl⟩ _

theorem reportExcess_reports (filling : Filling) (span : Span) :
    ReportsOnly Diagnostic.OfArguments (filling.reportExcess span) := by
  have labelled (extras : List Span) (diagnostic : Diagnostic) (ofArguments : diagnostic.OfArguments) :
      (extras.foldl (fun d extra => d.withLabel extra "unexpected argument") diagnostic).OfArguments := by
    induction extras generalizing diagnostic with
    | nil => exact ofArguments
    | cons extra rest ih => exact ih _ ofArguments
  unfold reportExcess
  split
  · exact .give _
  · exact .report (labelled filling.excess _ ⟨rfl, rfl⟩)

end Filling

theorem Parameter.fillSlots_reports (span : Span) (parameters : List Parameter) (slots : List (Option Filler)) :
    ReportsOnly Diagnostic.OfArguments (Parameter.fillSlots span parameters slots) := by
  induction parameters generalizing slots with
  | nil =>
    rw [fillSlots]
    · exact .give slots
    · nofun
  | cons parameter rest ih =>
    cases slots with
    | nil => exact .give []
    | cons slot others =>
      have first : ReportsOnly Diagnostic.OfArguments (parameter.fillSlot span slot) := by
        unfold fillSlot
        split
        · exact .give _
        · split
          · exact .give _
          · exact .recover ⟨rfl, rfl⟩ _
      exact first.bind fun _ => (ih others).bind fun _ => .give _

namespace Signature

variable (signature : Signature)

theorem checkSlot_reports (types : List (Option Ty)) (index : Nat) (parameter : Parameter) (slot : Option Filler) :
    ReportsOnly Diagnostic.OfArguments (signature.checkSlot types index parameter slot) := by
  unfold checkSlot
  split
  · exact .give _
  · split
    · exact .give _
    · refine .lift_bind fun accepted _ => ?_
      split
      · exact .give _
      · exact .lift_bind fun _ _ => .lift_bind fun _ _ => .report ⟨rfl, rfl⟩

theorem checkSlots_reports (types : List (Option Ty)) (parameters : List Parameter) (slots : List (Option Filler))
    (index : Nat) : ReportsOnly Diagnostic.OfArguments (signature.checkSlots types index parameters slots) := by
  induction parameters generalizing slots index with
  | nil =>
    rw [checkSlots]
    · exact .give _
    · nofun
  | cons parameter rest ih =>
    cases slots with
    | nil => exact .give _
    | cons slot others => exact (signature.checkSlot_reports types index parameter slot).bind fun _ => ih others _

/-- Binding reports nothing but errors in the arguments. -/
theorem bind_reports (settings : Settings) (supplied : List Supplied) (span : Span) :
    ReportsOnly Diagnostic.OfArguments (signature.bind settings supplied span) := by
  have placed := ReportsOnly.foldlM (Filling.place_reports settings signature) supplied
    (Filling.start signature.parameters)
  refine .ifSilent (placed.bind fun filling => ?_)
  exact (filling.reportExcess_reports span).bind fun _ => (Parameter.fillSlots_reports span _ _).bind fun _ =>
    (signature.checkSlots_reports _ _ _ _).bind fun _ => .give _

end Signature

/-! ### Nodes -/

namespace Environment

variable (env : Environment)

theorem unary_reports (operator : UnaryOperator) (operand : Value) (span : Span) :
    ReportsOnly (fun diagnostic => diagnostic.kind = .invalidOperands) (unary operator operand span) := by
  refine .lift_bind fun result _ => ?_
  cases result with
  | ok value => exact .give value
  | error error => exact .lift_bind fun _ _ => .recover (by rfl) _

/-- Labels are added, and the kind stays. -/
theorem labelOperands_kind {diagnostic labelled : Diagnostic} {left right : Value} {leftSpan rightSpan : Span}
    (labels : labelOperands diagnostic left right leftSpan rightSpan = .ok labelled) :
    labelled.kind = diagnostic.kind := by
  unfold labelOperands at labels
  split at labels
  · rename_i a b _ _
    cases first : a.text with
    | error fault =>
      rw [first] at labels
      cases labels
    | ok text =>
      cases second : b.text with
      | error fault =>
        rw [first, second] at labels
        cases labels
      | ok text' =>
        rw [first, second] at labels
        cases labels
        rfl
  · cases labels
    rfl

theorem binary_reports (operator : BinaryOperator) (left right : Value) (leftSpan rightSpan span : Span) :
    ReportsOnly (fun diagnostic => diagnostic.kind = .divisionByZero ∨ diagnostic.kind = .invalidOperands)
      (binary operator left right leftSpan rightSpan span) := by
  refine .lift_bind fun result _ => ?_
  split
  · exact .give _
  · exact .recover (.inl rfl) _
  · exact .lift_bind fun _ _ => .lift_bind fun labelled labels => .recover (.inr (labelOperands_kind labels)) _

theorem access_reports (target : Value) (name : String) (span : Span) :
    ReportsOnly (fun diagnostic => diagnostic.kind = .unknownAttribute ∨ diagnostic.kind = .internal)
      (env.access target name span) := by
  unfold access
  split
  · exact .give _
  · split
    · exact .lift_bind fun _ _ => .recover (.inl rfl) _
    · split
      · exact .lift_bind fun _ _ => .recover (.inl (Filling.suggest_alike ..).kind) _
      · split
        · exact .give _
        · refine .lift_bind fun found _ => ?_
          cases found with
          | some value => exact .give value
          | none => exact .lift_bind fun _ _ => .recover (.inr rfl) _

theorem elementAnywhere_reports (indexable : Indexable) (ty : Ty) (span : Span) :
    ReportsOnly (fun diagnostic => diagnostic.kind = .indeterminateType) (elementAnywhere indexable ty span) := by
  refine .lift_bind fun found _ => ?_
  cases found with
  | some element => exact .give _
  | none => exact .lift_bind fun _ _ => .recover (by rfl) _

theorem index_reports (target key : Value) (span : Span) :
    ReportsOnly (fun diagnostic => diagnostic.kind = .invalidIndex ∨ diagnostic.kind = .indeterminateType)
      (index target key span) := by
  unfold index
  split
  · split
    · exact .lift_bind fun _ _ => .lift_bind fun _ _ => .recover (.inl rfl) _
    · split
      · exact (elementAnywhere_reports _ _ span).imp fun _ => .inr
      · refine .lift_bind fun found _ => ?_
        cases found with
        | none => exact .lift_bind fun _ _ => .lift_bind fun _ _ => .recover (.inl rfl) _
        | some element =>
          simp only
          split
          · exact .give _
          · exact .lift_bind fun _ _ => .give _
  · exact .give _

theorem invoke_reports (callable : Callable) (callee : Value) (arguments : List Value) (span : Span) :
    ReportsOnly (fun diagnostic => diagnostic.kind = .callFailed) (env.invoke callable callee arguments span) := by
  unfold invoke
  split
  · exact .give _
  · refine .lift_bind fun _ _ => ?_
    split
    · exact .give _
    · split
      · exact .give _
      · refine .lift_bind fun result _ => ?_
        cases result with
        | ok value => exact .give value
        | error message => exact .recover (by rfl) _

theorem call_reports (callee : Value) (supplied : List Supplied) (calleeSpan span : Span) :
    ReportsOnly
      (fun diagnostic => diagnostic.kind = .notCallable ∨ diagnostic.OfArguments ∨ diagnostic.kind = .callFailed)
      (env.call callee supplied calleeSpan span) := by
  unfold call
  split
  · exact .give _
  · split
    · exact .lift_bind fun _ _ => .recover (.inl rfl) _
    · rename_i callable _
      have bound := callable.signature.bind_reports env.settings supplied span
      refine (bound.imp fun _ ofArguments => .inr (.inl ofArguments)).bind fun bound => ?_
      cases bound with
      | none => exact .give _
      | some arguments =>
        exact (env.invoke_reports callable callee arguments span).imp fun _ failed => .inr (.inr failed)

end Environment

end Circuitry
