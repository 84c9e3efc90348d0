import Circuitry.Block.Run

/-!
# Templates

A template is a block with parameters. It is scheduled once and can be instantiated any number of times,
each time in a fresh context in which its parameters are bound. Evaluated abstractly, with all parameters
unknown, it tells the type that its instances have.
-/

set_option autoImplicit false

namespace Circuitry

/-- A parameter of a template, with the value it takes when no argument is given. -/
structure TemplateParameter where
  symbol : Symbol
  ty : Ty
  fallback : Option Value

/-- A scheduled block with parameters. -/
structure Template where
  name : String
  parameters : List TemplateParameter
  block : Block

namespace TemplateParameter

def name (parameter : TemplateParameter) : String := parameter.symbol.name

/-- The parameter of the function that a template makes. -/
def toParameter (parameter : TemplateParameter) : Parameter :=
  ⟨parameter.name, .exactly parameter.ty, parameter.fallback⟩

end TemplateParameter

namespace Template

/-- The report that a statement binds a parameter, if it does. -/
def redefinition? (parameters : List TemplateParameter) (statement : Statement) : Option Diagnostic := do
  let symbol ← statement.target?
  if parameters.any fun parameter => parameter.symbol = symbol then
    return Diagnostic.error .duplicateDefinition (some statement.span)
      ("'" ++ symbol.name ++ "' is a template parameter and cannot be redefined")
  else none

/-- A template of statements in a scope. Statements that bind a parameter are left out and reported. -/
def ofStatements (name : String) (scope : ScopeId) (parameters : List TemplateParameter)
    (statements : List Statement) : Template × List Diagnostic :=
  let kept := statements.filter fun statement => (redefinition? parameters statement).isNone
  let (block, diagnostics) := schedule kept scope
  (⟨name, parameters, block⟩, statements.filterMap (redefinition? parameters) ++ diagnostics)

/-! ### Arguments -/

/-- Arguments by position of the parameter; each position occurs once. -/
abbrev Given := List (Nat × Value)

/-- Takes one named argument. The first argument for a parameter counts. -/
def take (template : Template) (settings : Settings) (given : Given) (argument : String × Value) :
    Reporting Given :=
  let (name, value) := argument
  match template.parameters.findIdx? fun parameter => parameter.name = name with
  | none =>
    let diagnostic :=
      Diagnostic.error .unknownArgument none
        ("template '" ++ template.name ++ "' has no parameter '" ++ name ++ "'")
    let noted :=
      match settings.closest name (template.parameters.map TemplateParameter.name) with
      | [] => diagnostic
      | close :: _ => diagnostic.withNote ("did you mean '" ++ close ++ "'?")
    Reporting.recover noted given
  | some index =>
    if (given.lookup index).isSome then
      Reporting.recover
        (Diagnostic.error .duplicateArgument none ("parameter '" ++ name ++ "' given more than once"))
        given
    else Reporting.give (given ++ [(index, value)])

/-- Takes named arguments in order. -/
def takeAll (template : Template) (settings : Settings) (arguments : List (String × Value)) :
    Reporting Given :=
  arguments.foldlM (template.take settings) []

/-- The value of a parameter. A value of another type is replaced by a placeholder, and a missing one by
an unknown; a default counts as it is. -/
def parameterValue (template : Template) (parameter : TemplateParameter) (given : Option Value) :
    Reporting Value :=
  match given with
  | some value =>
    match value.ty? with
    | none => Reporting.give value
    | some ty =>
      if ty.same parameter.ty then Reporting.give value
      else do
        let expected ← parameter.ty.text
        let found ← ty.text
        Reporting.recover
          (Diagnostic.error .argumentType none
            ("parameter '" ++ parameter.name ++ "' expects " ++ expected ++ ", found " ++ found))
          .placeholder
  | none =>
    match parameter.fallback with
    | some value => Reporting.give value
    | none =>
      Reporting.recover
        (Diagnostic.error .missingArgument none
          ("template '" ++ template.name ++ "' is missing parameter '" ++ parameter.name ++ "'"))
        (.unknown parameter.ty)

/-- Binds the parameters from a position on. -/
def bindFrom (template : Template) (context : ContextId) (given : Given) :
    Nat → List TemplateParameter → Run PUnit
  | _, [] => Run.give ⟨⟩
  | index, parameter :: rest => do
    let value ← template.parameterValue parameter (given.lookup index)
    Run.define context parameter.symbol value
    template.bindFrom context given (index + 1) rest

/-! ### Instances -/

/-- Runs the block in a fresh context inside `parent`, with named arguments for the parameters. -/
def instantiate (template : Template) (around : Surroundings) (parent : ContextId)
    (arguments : List (String × Value)) : Run Value := do
  let context ← Run.newChild parent
  let given ← template.takeAll around.settings arguments
  template.bindFrom context given 0 template.parameters
  template.block.run around context

/-- Binds each parameter to an unknown of its type. -/
def bindUnknown (context : ContextId) : List TemplateParameter → Run PUnit
  | [] => Run.give ⟨⟩
  | parameter :: rest => do
    Run.define context parameter.symbol (.unknown parameter.ty)
    bindUnknown context rest

/-- Runs the block in a fresh context inside `parent`, with every parameter unknown. -/
def evaluateAbstract (template : Template) (around : Surroundings) (parent : ContextId) : Run Value := do
  let context ← Run.newChild parent
  bindUnknown context template.parameters
  template.block.run around context

/-- The signature of the template as a function whose result has a given type. -/
def signature (template : Template) (result : Ty) : Signature :=
  ⟨template.parameters.map TemplateParameter.toParameter, .fixed result⟩

/-- Arguments by position, under the names of the parameters. -/
def named (template : Template) (arguments : List Value) : List (String × Value) :=
  (template.parameters.zip arguments).map fun (parameter, value) => (parameter.name, value)

/-- What a call of the template as a function gives: the value of an instance, or the messages of its
errors. -/
def callResult (value : Value) (diagnostics : List Diagnostic) : CallResult :=
  match diagnostics.filter Diagnostic.isError with
  | [] => .ok value
  | errors => .error ("; ".intercalate (errors.map Diagnostic.message))

end Template

end Circuitry
