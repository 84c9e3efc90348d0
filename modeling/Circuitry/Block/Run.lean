import Circuitry.Block.Schedule
import Circuitry.Expr.Evaluation
import Circuitry.Scope.Context

/-!
# Running blocks

A run binds symbols in contexts and reports diagnostics. What it has bound stays bound even if a fault ends
it. A block runs its statements in order; its value is the result that it makes explicit, or else an object
of everything that its scope declares.
-/

set_option autoImplicit false

namespace Circuitry

/-- A computation that changes contexts and reports diagnostics, unless a fault ends it. -/
def Run (α : Type) : Type := ContextForest → ContextForest × Reporting α

namespace Run

variable {α β : Type}

/-- Gives a value and does nothing else. -/
def give (value : α) : Run α := fun contexts => (contexts, Reporting.give value)

/-- Goes on with the value of a computation, in the contexts that it leaves. -/
def andThen (first : Run α) (next : α → Run β) : Run β := fun contexts =>
  match first contexts with
  | (contexts, .error fault) => (contexts, .error fault)
  | (contexts, .ok (value, before)) =>
    match next value contexts with
    | (contexts, .error fault) => (contexts, .error fault)
    | (contexts, .ok (result, after)) => (contexts, .ok (result, before ++ after))

instance : Monad Run where
  pure := give
  bind := andThen

/-- A computation that depends on the contexts and leaves them alone. -/
def reading (computation : ContextForest → Reporting α) : Run α := fun contexts =>
  (contexts, computation contexts)

instance : MonadLift Reporting Run where
  monadLift computation := reading fun _ => computation

/-- Binds a symbol; against the rules of contexts that is a fault. -/
def define (context : ContextId) (symbol : Symbol) (value : Value) : Run PUnit := fun contexts =>
  match contexts.define context symbol value with
  | .ok extended => (extended, Reporting.give ⟨⟩)
  | .error error => (contexts, .error (.context error))

/-- A new, empty context inside another one. -/
def newChild (parent : ContextId) : Run ContextId := fun contexts =>
  let (child, extended) := contexts.newChild parent
  (extended, Reporting.give child)

end Run

/-- What a run depends on besides the contexts. What the host answers may depend on the contexts, because
functions made from templates read them. -/
structure Surroundings where
  scopes : ScopeForest
  hostIn : ContextForest → Host
  settings : Settings

/-- What evaluation in a context depends on. -/
def Surroundings.environment (around : Surroundings) (contexts : ContextForest) (context : ContextId) :
    Environment :=
  ⟨around.hostIn contexts, around.settings, contexts.value? context⟩

/-- The value of an expression in a context. -/
def Expr.run (expr : Expr) (around : Surroundings) (context : ContextId) : Run Value :=
  Run.reading fun contexts => expr.eval (around.environment contexts context)

/-- Runs one statement; gives the value that it makes the result, if it does. -/
def Statement.run (around : Surroundings) (context : ContextId) : Statement → Run (Option Value)
  | .assign symbol expr => do
    Run.define context symbol (← expr.run around context)
    return none
  | .result expr => do return some (← expr.run around context)

/-- Runs statements in order; gives the last value that one makes the result. -/
def Statement.runAll (around : Surroundings) (context : ContextId) : List Statement → Run (Option Value)
  | [] => Run.give none
  | statement :: rest => do
    let earlier ← statement.run around context
    let later ← Statement.runAll around context rest
    return later <|> earlier

namespace Block

/-- An object of everything that a scope declares; what is not bound makes it a placeholder. -/
def summary (scopes : ScopeForest) (context : ContextId) (scope : ScopeId) (contexts : ContextForest) :
    Value :=
  Value.ofAttributes
    ((contexts.allValues scopes context scope).map fun (name, value) => (name, value.getD .placeholder))

/-- Runs a block in a context and gives its value. -/
def run (block : Block) (around : Surroundings) (context : ContextId) : Run Value := do
  match ← Statement.runAll around context block.statements with
  | some value => return value
  | none =>
    Run.reading fun contexts => Reporting.give (summary around.scopes context block.scope contexts)

end Block

end Circuitry
