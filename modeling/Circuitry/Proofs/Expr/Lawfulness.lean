import Circuitry.Expr.Evaluation
import Circuitry.Proofs.Kernel.Induction
import Circuitry.Proofs.Report.Reporting

/-!
# Faults of an evaluation

An evaluation neither declares nor binds anything, so no fault that ends it is one of breaking a rule of scopes or
contexts, whatever the expression and whatever values it meets, well-formed or not. What a host's callbacks do is
their own affair: the only faults of the kind are those that a call passes on.
-/

set_option autoImplicit false

namespace Circuitry

variable {α β : Type}

/-- Whether a fault is a name declared or a symbol bound against the rules. -/
def Fault.breaksRule : Fault → Bool
  | .scope _ | .context _ => true
  | .noSuchParameter | .notNumber _ | .wrongPayload _ _ | .unordered _ _ | .tooDeep => false

/-! ### Lawful computations -/

/-- No fault that ends a computation breaks a rule. -/
def Lawful (result : Except Fault α) : Prop := ∀ fault, result = .error fault → fault.breaksRule = false

namespace Lawful

protected theorem ok (value : α) : Lawful (.ok value) := fun _ => nofun

protected theorem error {fault : Fault} (harmless : fault.breaksRule = false) :
    Lawful (.error fault : Except Fault α) := by
  rintro _ ⟨⟩
  exact harmless

protected theorem bind {first : Except Fault α} {next : α → Except Fault β} (lawful : Lawful first)
    (further : ∀ value, Lawful (next value)) : Lawful (first >>= next) := by
  rcases first with fault | value
  · rintro _ ⟨⟩
    exact lawful fault rfl
  · exact further value

end Lawful

/-- No fault that ends a computation which reports breaks a rule. -/
def Reporting.Lawful (computation : Reporting α) : Prop :=
  ∀ fault, computation = .error fault → fault.breaksRule = false

namespace Reporting.Lawful

protected theorem give (value : α) : (give value).Lawful := fun _ => nofun

protected theorem recover (diagnostic : Diagnostic) (value : α) : (recover diagnostic value).Lawful := fun _ => nofun

protected theorem report (diagnostic : Diagnostic) : (report diagnostic).Lawful := fun _ => nofun

protected theorem lift {result : Except Fault α} (lawful : Circuitry.Lawful result) :
    (liftM result : Reporting α).Lawful := by
  rcases result with fault | value
  · rintro _ ⟨⟩
    exact lawful fault rfl
  · exact .give value

protected theorem bind {first : Reporting α} {next : α → Reporting β} (lawful : first.Lawful)
    (further : ∀ value, (next value).Lawful) : (first >>= next).Lawful := by
  rcases first with fault | ⟨value, before⟩
  · rintro _ ⟨⟩
    exact lawful fault rfl
  · intro fault failed
    change andThen _ next = _ at failed
    simp only [andThen] at failed
    rcases after : next value with failure | ⟨result, reported⟩
    · rw [after] at failed
      cases failed
      exact further value fault after
    · rw [after] at failed
      cases failed

/-- What is taken up from a computation that does not report. -/
protected theorem lift_bind {first : Except Fault α} {next : α → Reporting β} (lawful : Circuitry.Lawful first)
    (further : ∀ value, (next value).Lawful) : ((liftM first : Reporting α) >>= next).Lawful :=
  .bind (.lift lawful) further

protected theorem ifSilent {computation : Reporting α} (lawful : computation.Lawful) :
    (ifSilent computation).Lawful := by
  rcases computation with fault | ⟨value, _ | ⟨first, rest⟩⟩
  · rintro _ ⟨⟩
    exact lawful fault rfl
  · exact fun _ => nofun
  · exact fun _ => nofun

protected theorem foldlM {step : β → α → Reporting β} (lawful : ∀ state item, (step state item).Lawful)
    (items : List α) (state : β) : (items.foldlM step state).Lawful := by
  induction items generalizing state with
  | nil => exact .give state
  | cons item rest ih => exact .bind (lawful state item) ih

end Reporting.Lawful

/-! ### Types and values in writing -/

theorem typeOfParameter_lawful (names : List String) (index : Nat) : Lawful (typeOfParameter names index) := by
  unfold typeOfParameter
  cases names[index]? with
  | none => exact .error rfl
  | some name => exact .ok _

theorem Ty.attributeTexts_lawful {attributes : List (String × Ty)}
    (written : ∀ entry ∈ attributes, Lawful entry.2.text) : Lawful (Ty.attributeTexts attributes) := by
  induction attributes with
  | nil => exact .ok []
  | cons entry rest ih =>
    obtain ⟨name, ty⟩ := entry
    have first : Lawful (Ty.attributeText (name, ty)) := .bind (written (name, ty) (by simp)) fun _ => .ok _
    exact .bind first fun _ =>
      .bind (ih fun entry member => written entry (List.mem_cons_of_mem _ member)) fun _ => .ok _

theorem Constraint.text_lawful {constraint : Constraint} (names : List String)
    (written : ∀ ty, constraint = .exactly ty → Lawful ty.text) : Lawful (constraint.text names) := by
  cases constraint with
  | any => exact .ok _
  | anyNumber => exact .ok _
  | exactly ty => exact written ty rfl
  | sameAs index => exact typeOfParameter_lawful names index

theorem ResultRule.text_lawful {rule : ResultRule} (names : List String)
    (written : ∀ ty, rule = .fixed ty → Lawful ty.text) : Lawful (rule.text names) := by
  cases rule with
  | fixed ty => exact written ty rfl
  | sameAs index => exact typeOfParameter_lawful names index

theorem Parameter.texts_lawful {parameters : List Parameter} (names : List String)
    (written : ∀ parameter ∈ parameters, Lawful (parameter.constraint.text names)) :
    Lawful (Parameter.texts parameters names) := by
  induction parameters with
  | nil => exact .ok []
  | cons parameter rest ih =>
    obtain ⟨name, constraint, fallback⟩ := parameter
    have first : Lawful (Parameter.text ⟨name, constraint, fallback⟩ names) :=
      .bind (written ⟨name, constraint, fallback⟩ (by simp)) fun _ => .ok _
    exact .bind first fun _ =>
      .bind (ih fun parameter member => written parameter (List.mem_cons_of_mem _ member)) fun _ => .ok _

theorem Value.fieldTexts_lawful {digits : Nat} {fields : List (String × Value)}
    (written : ∀ field ∈ fields, Lawful (field.2.render digits)) : Lawful (Value.fieldTexts digits fields) := by
  induction fields with
  | nil => exact .ok []
  | cons field rest ih =>
    obtain ⟨name, value⟩ := field
    have first : Lawful (Value.fieldText digits (name, value)) :=
      .bind (written (name, value) (by simp)) fun _ => .ok _
    exact .bind first fun _ =>
      .bind (ih fun field member => written field (List.mem_cons_of_mem _ member)) fun _ => .ok _

theorem Kernel.text_lawful (digits : Nat) :
    Kernel.Cases (fun ty => Lawful ty.text) (fun value => Lawful (value.render digits)) where
  bool := .ok _
  string := .ok _
  number _ := .ok _
  type := .ok _
  model _ := .ok _
  object _ ih := .bind (Ty.attributeTexts_lawful ih) fun _ => .ok _
  function parameters returns ihParameters ihReturns := by
    have texts := Parameter.texts_lawful (parameters.map Parameter.name) fun parameter member =>
      Constraint.text_lawful _ (ihParameters parameter member).1
    exact .bind texts fun _ => .bind (ResultRule.text_lawful _ ihReturns) fun _ => .ok _
  known ty payload ihTy ihPayload := by
    cases payload with
    | object fields => exact .bind (Value.fieldTexts_lawful (ihPayload.1 fields rfl)) fun _ => .ok _
    | type inner => exact ihPayload.2 inner rfl
    | bool value | string value | quantity value => exact .ok _
    | function id | model id => exact .bind ihTy fun _ => .ok _
  unknown ty ihTy := .bind ihTy fun _ => .ok _
  placeholder := .ok _

theorem Ty.text_lawful (ty : Ty) : Lawful ty.text := (Kernel.text_lawful 0).ty ty

theorem Value.text_lawful (value : Value) : Lawful value.text := (Kernel.text_lawful Quantity.displayDigits).value value

theorem Signature.constraintText_lawful (signature : Signature) (index : Nat) :
    Lawful (signature.constraintText index) := by
  unfold constraintText
  cases signature.parameters[index]? with
  | none => exact .error rfl
  | some parameter => exact Constraint.text_lawful _ fun ty _ => ty.text_lawful

/-! ### What values can do -/

namespace Payload

variable (payload : Payload)

theorem asQuantity_lawful : Lawful payload.asQuantity := by
  cases payload with
  | quantity value => exact .ok value
  | _ => exact .error rfl

theorem asString_lawful : Lawful payload.asString := by
  cases payload with
  | string value => exact .ok value
  | _ => exact .error rfl

theorem asFields_lawful : Lawful payload.asFields := by
  cases payload with
  | object fields => exact .ok fields
  | _ => exact .error rfl

theorem asFunction_lawful : Lawful payload.asFunction := by
  cases payload with
  | function id => exact .ok id
  | _ => exact .error rfl

theorem asModel_lawful : Lawful payload.asModel := by
  cases payload with
  | model id => exact .ok id
  | _ => exact .error rfl

theorem concat_lawful (other : Payload) : Lawful (payload.concat other) :=
  .bind payload.asString_lawful fun _ => .bind other.asString_lawful fun _ => .ok _

end Payload

namespace Arithmetic

theorem otherDims_lawful (other : Ty) : Lawful (otherDims other) := by
  unfold otherDims
  cases other.dims? with
  | none => exact .bind other.text_lawful fun _ => .error rfl
  | some dims => exact .ok dims

/-- All arithmetic on two payloads takes both to be quantities first. -/
theorem quantities_lawful (a b : Payload) {next : Quantity → Quantity → Except Fault α}
    (lawful : ∀ left right, Lawful (next left right)) :
    Lawful (do let left ← a.asQuantity; let right ← b.asQuantity; next left right) :=
  .bind a.asQuantity_lawful fun left => .bind b.asQuantity_lawful fun right => lawful left right

theorem neg_lawful (a : Payload) : Lawful (neg a) := .bind a.asQuantity_lawful fun _ => .ok _

theorem compare_lawful (a b : Payload) : Lawful (compare a b) := by
  refine quantities_lawful a b fun left right => ?_
  cases left.compare? right with
  | none => exact .error rfl
  | some order => exact .ok order

end Arithmetic

namespace OperatorError

theorem message_lawful (error : OperatorError) : Lawful error.message := by
  cases error with
  | invalidOperands _ left right | dimensionOverflow _ left right =>
    exact .bind left.text_lawful fun _ => .bind right.text_lawful fun _ => .ok _
  | invalidOperand _ operand => exact .bind operand.text_lawful fun _ => .ok _
  | divisionByZero => exact .ok _
  | arithmetic _ _ => exact .ok _

end OperatorError

theorem UnaryOperator.apply_lawful (operator : UnaryOperator) (operand : Value) : Lawful (operator.apply operand) := by
  unfold apply
  cases operand.ty? with
  | none => exact .ok _
  | some ty =>
    cases operator with
    | neg =>
      simp only
      cases ty.arithmetic? with
      | none => exact .ok _
      | some arithmetic =>
        simp only
        cases operand.payload? with
        | none => exact .ok _
        | some payload => exact .bind (Arithmetic.neg_lawful payload) fun _ => .ok _
    | not =>
      simp only
      split
      · exact .ok _
      · split <;> exact .ok _

namespace ArithmeticOperator

theorem resultType_lawful (operator : ArithmeticOperator) (left right : Ty) :
    Lawful (operator.resultType left right) := by
  unfold resultType
  simp only
  split
  · exact .ok _
  · cases left.arithmetic? with
    | none => exact .ok _
    | some arithmetic =>
      cases operator with
      | add | sub => exact .ok _
      | mul | div =>
        simp only
        split
        · exact .bind (.bind (Arithmetic.otherDims_lawful right) fun _ => .ok _) fun _ => .ok _
        · exact .ok _

theorem combine_lawful (operator : ArithmeticOperator) (left right : Ty) (a b : Payload) :
    Lawful (operator.combine left right a b) := by
  cases operator with
  | add =>
    simp only [combine]
    split
    · exact .bind (a.concat_lawful b) fun _ => .ok _
    · exact .bind (Arithmetic.quantities_lawful a b fun _ _ => .ok _) fun _ => .ok _
  | sub | mul | div => exact .bind (Arithmetic.quantities_lawful a b fun _ _ => .ok _) fun _ => .ok _

theorem apply_lawful (operator : ArithmeticOperator) (left right : Ty) (a b : Value) :
    Lawful (operator.apply left right a b) := by
  refine .bind (operator.resultType_lawful left right) fun result => ?_
  cases result with
  | error error => exact .ok _
  | ok ty =>
    simp only
    split
    · exact .bind (operator.combine_lawful left right _ _) fun _ => .ok _
    · exact .ok _

end ArithmeticOperator

theorem OrderOperator.apply_lawful (operator : OrderOperator) (left right : Ty) (a b : Value) :
    Lawful (operator.apply left right a b) := by
  unfold apply
  split
  · split
    · exact .bind (Arithmetic.compare_lawful _ _) fun _ => .ok _
    · exact .ok _
  · exact .ok _

theorem BinaryOperator.apply_lawful (operator : BinaryOperator) (a b : Value) : Lawful (operator.apply a b) := by
  unfold apply
  split
  · cases operator with
    | arithmetic operator => exact operator.apply_lawful _ _ a b
    | order operator => exact operator.apply_lawful _ _ a b
    | equal | notEqual | logic _ => exact .ok _
  · exact .ok _

/-! ### Binding of arguments -/

namespace Filling

theorem placeNamed_lawful (settings : Settings) (signature : Signature) (filling : Filling) (name : String)
    (filler : Filler) : (filling.placeNamed settings signature name filler).Lawful := by
  unfold placeNamed
  split
  · exact .recover _ _
  · split
    · exact .give _
    · exact .recover _ _

theorem place_lawful (settings : Settings) (signature : Signature) (filling : Filling) (supplied : Supplied) :
    (filling.place settings signature supplied).Lawful := by
  unfold place
  split
  · exact .give _
  · exact placeNamed_lawful settings signature filling _ _

theorem reportExcess_lawful (filling : Filling) (span : Span) : (filling.reportExcess span).Lawful := by
  unfold reportExcess
  split
  · exact .give _
  · exact .report _

end Filling

theorem Parameter.fillSlots_lawful (span : Span) (parameters : List Parameter) (slots : List (Option Filler)) :
    (Parameter.fillSlots span parameters slots).Lawful := by
  induction parameters generalizing slots with
  | nil =>
    rw [fillSlots]
    · exact .give slots
    · nofun
  | cons parameter rest ih =>
    cases slots with
    | nil => exact .give []
    | cons slot others =>
      have first : (parameter.fillSlot span slot).Lawful := by
        unfold fillSlot
        split
        · exact .give _
        · split
          · exact .give _
          · exact .recover _ _
      exact .bind first fun _ => .bind (ih others) fun _ => .give _

namespace Signature

variable (signature : Signature)

theorem checkSlot_lawful (types : List (Option Ty)) (index : Nat) (parameter : Parameter) (slot : Option Filler) :
    (signature.checkSlot types index parameter slot).Lawful := by
  unfold checkSlot
  split
  · exact .give _
  · split
    · exact .give _
    · rename_i filler _ ty _
      have accepts : Lawful (signature.accepts index ty types) := by
        unfold Signature.accepts
        split
        · exact .ok _
        · exact .error rfl
      refine .lift_bind accepts fun accepted => ?_
      split
      · exact .give _
      · exact .lift_bind (signature.constraintText_lawful index) fun _ =>
          .lift_bind ty.text_lawful fun _ => .report _

theorem checkSlots_lawful (types : List (Option Ty)) (parameters : List Parameter) (slots : List (Option Filler))
    (index : Nat) : (signature.checkSlots types index parameters slots).Lawful := by
  induction parameters generalizing slots index with
  | nil =>
    rw [checkSlots]
    · exact .give _
    · nofun
  | cons parameter rest ih =>
    cases slots with
    | nil => exact .give _
    | cons slot others =>
      exact .bind (signature.checkSlot_lawful types index parameter slot) fun _ => ih others (index + 1)

theorem bind_lawful (settings : Settings) (supplied : List Supplied) (span : Span) :
    (signature.bind settings supplied span).Lawful := by
  refine .ifSilent (.bind (.foldlM (Filling.place_lawful settings signature) supplied _) fun filling => ?_)
  exact .bind (filling.reportExcess_lawful span) fun _ =>
    .bind (Parameter.fillSlots_lawful span _ _) fun _ =>
      .bind (signature.checkSlots_lawful _ _ _ _) fun _ => .give _

theorem resultType_lawful (arguments : List Ty) : Lawful (signature.resultType arguments) := by
  unfold resultType
  split
  · exact .ok _
  · split
    · exact .ok _
    · exact .error rfl

end Signature

/-! ### Nodes -/

/-- No call of a host ends in a fault that breaks a rule. -/
def Host.Lawful (host : Host) : Prop := ∀ id arguments, Circuitry.Lawful (host.call id arguments)

theorem AttributeSource.value?_lawful (host : Host) (source : AttributeSource) (payload : Payload) (name : String) :
    Lawful (source.value? host payload name) := by
  cases source with
  | object attributes => exact .bind payload.asFields_lawful fun _ => .ok _
  | model kind => exact .bind payload.asModel_lawful fun _ => .ok _

theorem Callable.call_lawful {host : Host} (lawful : host.Lawful) (callable : Callable) (payload : Payload)
    (arguments : List Value) : Lawful (callable.call host payload arguments) := by
  cases callable with
  | function signature => exact .bind payload.asFunction_lawful fun id => lawful id arguments
  | model kind signature => exact .bind payload.asModel_lawful fun _ => .ok _

namespace Environment

variable (env : Environment)

theorem symbol_lawful (symbol : Symbol) (span : Span) : (env.symbol symbol span).Lawful := by
  unfold Environment.symbol
  split
  · exact .give _
  · exact .recover _ _

theorem unary_lawful (operator : UnaryOperator) (operand : Value) (span : Span) :
    (unary operator operand span).Lawful := by
  refine .lift_bind (operator.apply_lawful operand) fun result => ?_
  cases result with
  | ok value => exact .give value
  | error error => exact .lift_bind error.message_lawful fun _ => .recover _ _

theorem labelOperands_lawful (diagnostic : Diagnostic) (left right : Value) (leftSpan rightSpan : Span) :
    Lawful (labelOperands diagnostic left right leftSpan rightSpan) := by
  unfold labelOperands
  split
  · exact .bind (Ty.text_lawful _) fun _ => .bind (Ty.text_lawful _) fun _ => .ok _
  · exact .ok _

theorem binary_lawful (operator : BinaryOperator) (left right : Value) (leftSpan rightSpan span : Span) :
    (binary operator left right leftSpan rightSpan span).Lawful := by
  refine .lift_bind (operator.apply_lawful left right) fun result => ?_
  split
  · exact .give _
  · exact .recover _ _
  · exact .lift_bind (OperatorError.message_lawful _) fun _ =>
      .lift_bind (labelOperands_lawful _ _ _ _ _) fun _ => .recover _ _

theorem access_lawful (target : Value) (name : String) (span : Span) : (env.access target name span).Lawful := by
  unfold access
  split
  · exact .give _
  · rename_i ty _
    split
    · exact .lift_bind ty.text_lawful fun _ => .recover _ _
    · rename_i source _
      split
      · exact .lift_bind ty.text_lawful fun _ => .recover _ _
      · split
        · exact .give _
        · refine .lift_bind (source.value?_lawful env.host _ name) fun found => ?_
          cases found with
          | some value => exact .give value
          | none => exact .lift_bind ty.text_lawful fun _ => .recover _ _

theorem elementAnywhere_lawful (indexable : Indexable) (ty : Ty) (span : Span) :
    (elementAnywhere indexable ty span).Lawful := by
  refine .lift_bind (.ok _) fun found => ?_
  cases found with
  | some element => exact .give _
  | none => exact .lift_bind ty.text_lawful fun _ => .recover _ _

theorem index_lawful (target key : Value) (span : Span) : (index target key span).Lawful := by
  unfold index
  split
  · rename_i ty keyType _ _
    split
    · exact .lift_bind ty.text_lawful fun _ => .lift_bind keyType.text_lawful fun _ => .recover _ _
    · rename_i indexable _
      split
      · exact elementAnywhere_lawful indexable ty span
      · rename_i keyPayload _
        have typed : Lawful (indexable.elementType? (some keyPayload)) :=
          .bind keyPayload.asString_lawful fun _ => .ok _
        refine .lift_bind typed fun found => ?_
        cases found with
        | none => exact .lift_bind ty.text_lawful fun _ => .lift_bind key.text_lawful fun _ => .recover _ _
        | some element =>
          simp only
          split
          · exact .give _
          · rename_i payload _
            have element : Lawful (Indexable.element? payload keyPayload) :=
              .bind payload.asFields_lawful fun _ => .bind keyPayload.asString_lawful fun _ => .ok _
            exact .lift_bind element fun _ => .give _
  · exact .give _

variable {env} (lawful : env.host.Lawful)
include lawful

theorem invoke_lawful (callable : Callable) (callee : Value) (arguments : List Value) (span : Span) :
    (env.invoke callable callee arguments span).Lawful := by
  unfold invoke
  split
  · exact .give _
  · refine .lift_bind (callable.signature.resultType_lawful _) fun _ => ?_
    split
    · exact .give _
    · split
      · exact .give _
      · refine .lift_bind (callable.call_lawful lawful _ arguments) fun result => ?_
        cases result with
        | ok value => exact .give value
        | error message => exact .recover _ _

theorem call_lawful (callee : Value) (supplied : List Supplied) (calleeSpan span : Span) :
    (env.call callee supplied calleeSpan span).Lawful := by
  unfold call
  split
  · exact .give _
  · rename_i ty _
    split
    · exact .lift_bind ty.text_lawful fun _ => .recover _ _
    · rename_i callable _
      refine .bind (callable.signature.bind_lawful env.settings supplied span) fun bound => ?_
      cases bound with
      | none => exact .give _
      | some arguments => exact invoke_lawful lawful callable callee arguments span

end Environment

/-! ### Expressions -/

mutual

/-- An expression breaks no rule. -/
theorem Expr.eval_lawful {env : Environment} (lawful : env.host.Lawful) : ∀ expr : Expr, (expr.eval env).Lawful
  | .literal value _ => .give value
  | .symbol symbol span => env.symbol_lawful symbol span
  | .unary operator operand span =>
    .bind (operand.eval_lawful lawful) fun value => Environment.unary_lawful operator value span
  | .binary operator left right span =>
    .bind (left.eval_lawful lawful) fun leftValue => .bind (right.eval_lawful lawful) fun rightValue =>
      Environment.binary_lawful operator leftValue rightValue left.span right.span span
  | .call callee arguments span =>
    .bind (callee.eval_lawful lawful) fun calleeValue =>
      .bind (Argument.evalAll_lawful lawful arguments) fun supplied =>
        Environment.call_lawful lawful calleeValue supplied callee.span span
  | .access target name span =>
    .bind (target.eval_lawful lawful) fun value => env.access_lawful value name span
  | .index target key span =>
    .bind (target.eval_lawful lawful) fun value => .bind (key.eval_lawful lawful) fun keyValue =>
      Environment.index_lawful value keyValue span
termination_by structural expr => expr

theorem Argument.evalAll_lawful {env : Environment} (lawful : env.host.Lawful) :
    ∀ arguments : List Argument, (Argument.evalAll env arguments).Lawful
  | [] => .give []
  | argument :: rest =>
    .bind (argument.eval_lawful lawful) fun _ => .bind (Argument.evalAll_lawful lawful rest) fun _ => .give _
termination_by structural arguments => arguments

theorem Argument.eval_lawful {env : Environment} (lawful : env.host.Lawful) :
    ∀ argument : Argument, (argument.eval env).Lawful
  | ⟨_, value, _⟩ => .bind (value.eval_lawful lawful) fun _ => .give _
termination_by structural argument => argument

end

end Circuitry
