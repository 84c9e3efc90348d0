import Circuitry.Expr.Basic
import Circuitry.Expr.Binding

/-!
# Evaluation

An expression is evaluated against what symbols are bound to. A mistake never stops evaluation: the node
that fails gives a placeholder, or an unknown where its type is certain, and its neighbours are evaluated
all the same, so each independent mistake is reported once. Operands are always evaluated before anything
else is looked at, from left to right, also those of logic operators.
-/

set_option autoImplicit false

namespace Circuitry

/-- What an evaluation depends on. -/
structure Environment where
  host : Host
  settings : Settings
  /-- The value to which a symbol is bound, if it is. -/
  value? : Symbol → Option Value

namespace Environment

variable (env : Environment)

/-- An error at a place, and a placeholder for the value that is missing. -/
def fail (kind : DiagnosticKind) (span : Span) (message : String) : Reporting Value :=
  Reporting.recover (Diagnostic.error kind (some span) message) .placeholder

/-- The value of a symbol. -/
def symbol (symbol : Symbol) (span : Span) : Reporting Value :=
  match env.value? symbol with
  | some value => Reporting.give value
  | none => fail .undefinedSymbol span ("symbol '" ++ symbol.name ++ "' not yet defined")

/-- An operator applied to one value. -/
def unary (operator : UnaryOperator) (operand : Value) (span : Span) : Reporting Value := do
  match ← operator.apply operand with
  | .ok value => return value
  | .error error =>
    let message ← error.message
    Reporting.recover (Diagnostic.error .invalidOperands (some span) message) operator.fallback

/-- The labels that name the types of two operands. -/
def labelOperands (diagnostic : Diagnostic) (left right : Value) (leftSpan rightSpan : Span) :
    Except Fault Diagnostic :=
  match left.ty?, right.ty? with
  | some a, some b => do
    let first ← a.text
    let second ← b.text
    return (diagnostic.withLabel leftSpan ("this is " ++ first)).withLabel rightSpan ("this is " ++ second)
  | _, _ => .ok diagnostic

/-- An operator applied to two values. -/
def binary (operator : BinaryOperator) (left right : Value) (leftSpan rightSpan span : Span) :
    Reporting Value := do
  match ← operator.apply left right with
  | .ok value => return value
  | .error .divisionByZero =>
    let diagnostic := Diagnostic.error .divisionByZero (some span) "division by zero"
    Reporting.recover (diagnostic.withLabel rightSpan "divisor is zero") .placeholder
  | .error error =>
    let message ← error.message
    let diagnostic := Diagnostic.error .invalidOperands (some span) message
    let labelled ← labelOperands diagnostic left right leftSpan rightSpan
    Reporting.recover labelled operator.fallback

/-- The attribute of a value. -/
def access (target : Value) (name : String) (span : Span) : Reporting Value :=
  match target.ty? with
  | none => Reporting.give .placeholder
  | some ty =>
    match ty.attributes? with
    | none => do fail .unknownAttribute span ((← ty.text) ++ " has no attributes")
    | some source =>
      match source.type? env.host name with
      | none => do
        let message := (← ty.text) ++ " has no attribute '" ++ name ++ "'"
        let diagnostic := Diagnostic.error .unknownAttribute (some span) message
        Reporting.recover (env.settings.suggest diagnostic name (source.names env.host)) .placeholder
      | some attributeType =>
        match target.payload? with
        | none => Reporting.give (.unknown attributeType)
        | some payload => do
          match ← source.value? env.host payload name with
          | some value => return value
          | none =>
            let owner ← ty.text
            fail .internal span ("attribute '" ++ name ++ "' of " ++ owner ++ " has a type but no value")

/-- The element of an object whose type is `ty`, under a key that is not known. -/
def elementAnywhere (indexable : Indexable) (ty : Ty) (span : Span) : Reporting Value := do
  match ← indexable.elementType? none with
  | some element => return .unknown element
  | none =>
    let owner ← ty.text
    Reporting.recover
      (Diagnostic.warning .indeterminateType (some span)
        ("elements of " ++ owner ++ " differ in type; cannot index with an unknown key"))
      .placeholder

/-- The element of a value under a key. -/
def index (target key : Value) (span : Span) : Reporting Value :=
  match target.ty?, key.ty? with
  | some ty, some keyType =>
    match (ty.indexable?).filter fun indexable => indexable.canIndex keyType with
    | none => do
      fail .invalidIndex span ("cannot index " ++ (← ty.text) ++ " with " ++ (← keyType.text))
    | some indexable =>
      match key.payload? with
      | none => elementAnywhere indexable ty span
      | some keyPayload => do
        match ← indexable.elementType? (some keyPayload) with
        | none => fail .invalidIndex span ((← ty.text) ++ " has no element " ++ (← key.text))
        | some element =>
          match target.payload? with
          | none => return .unknown element
          | some payload => return (← Indexable.element? payload keyPayload).getD .placeholder
  | _, _ => Reporting.give .placeholder

/-- The result of calling a value of a callable type with bound arguments. The callback runs only if the
callee and all arguments are known. -/
def invoke (callable : Callable) (callee : Value) (arguments : List Value) (span : Span) :
    Reporting Value :=
  if arguments.any Value.isPlaceholder then Reporting.give .placeholder
  else do
    let resultType ← callable.signature.resultType (arguments.filterMap Value.ty?)
    match callee.payload? with
    | none => return .unknown resultType
    | some payload =>
      if arguments.any Value.isUnknown then return .unknown resultType
      else
        match ← callable.call env.host payload arguments with
        | .ok value => return value
        | .error message => fail .callFailed span ("call failed: " ++ message)

/-- A value called with arguments. -/
def call (callee : Value) (supplied : List Supplied) (calleeSpan span : Span) : Reporting Value :=
  match callee.ty? with
  | none => Reporting.give .placeholder
  | some ty =>
    match ty.callable? env.host with
    | none => do fail .notCallable calleeSpan ((← ty.text) ++ " is not callable")
    | some callable => do
      match ← callable.signature.bind env.settings supplied span with
      | none => return .placeholder
      | some arguments => env.invoke callable callee arguments span

end Environment

mutual

/-- The value of an expression. -/
def Expr.eval (env : Environment) : Expr → Reporting Value
  | .literal value _ => Reporting.give value
  | .symbol symbol span => env.symbol symbol span
  | .unary operator operand span => do
    let value ← operand.eval env
    Environment.unary operator value span
  | .binary operator left right span => do
    let leftValue ← left.eval env
    let rightValue ← right.eval env
    Environment.binary operator leftValue rightValue left.span right.span span
  | .call callee arguments span => do
    let calleeValue ← callee.eval env
    let supplied ← Argument.evalAll env arguments
    env.call calleeValue supplied callee.span span
  | .access target name span => do
    let value ← target.eval env
    env.access value name span
  | .index target key span => do
    let value ← target.eval env
    let keyValue ← key.eval env
    Environment.index value keyValue span
termination_by structural expr => expr

/-- The values of some arguments. -/
def Argument.evalAll (env : Environment) : List Argument → Reporting (List Supplied)
  | [] => Reporting.give []
  | argument :: rest => do
    let first ← argument.eval env
    let others ← Argument.evalAll env rest
    return first :: others
termination_by structural arguments => arguments

/-- The value of an argument. -/
def Argument.eval (env : Environment) : Argument → Reporting Supplied
  | ⟨name, value, span⟩ => do return ⟨name, ← value.eval env, span⟩
termination_by structural argument => argument

end

end Circuitry
