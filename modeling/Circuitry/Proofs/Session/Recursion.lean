import Circuitry.Proofs.Session.Depth
import Circuitry.Proofs.Session.Operations
import Circuitry.Proofs.Template.Prediction

/-!
# A function that finds itself

Cyclic statements are left out of a block before it runs, but a context can close a cycle that no block shows.
A function made from a template inside a context looks names up there when it is called. If the name by which
its body calls a function is bound around that context when the function is made, and the function itself is
bound to the name in the context afterwards, then each call finds the function again. The name is bound, the
types fit, and no statement depends on itself; yet no depth of nested calls suffices.
-/

set_option autoImplicit false

namespace Circuitry

/-! ### Runs that a fault ends -/

section Runs

variable {around : Surroundings} {context : ContextId} {contexts last : ContextForest} {fault : Fault}

theorem Statement.run_result_of_error {expr : Expr}
    (failed : expr.eval (around.environment contexts context) = .error fault) :
    (Statement.result expr).run around context contexts = (contexts, .error fault) := by
  have ran : expr.run around context contexts = (contexts, .error fault) := congrArg (Prod.mk contexts) failed
  exact Run.bind_eq_error.2 (.inl ran)

theorem Statement.runAll_cons_of_error {statement : Statement} {rest : List Statement}
    (failed : statement.run around context contexts = (last, .error fault)) :
    Statement.runAll around context (statement :: rest) contexts = (last, .error fault) :=
  Run.bind_eq_error.2 (.inl failed)

theorem Block.run_of_error {block : Block}
    (failed : Statement.runAll around context block.statements contexts = (last, .error fault)) :
    block.run around context contexts = (last, .error fault) :=
  Run.bind_eq_error.2 (.inl failed)

/-- An instance ends with the fault of its block. -/
theorem Template.instantiate_of_error {template : Template} {parent : ContextId}
    {arguments : List (String × Value)} {given : Given} {bound : ContextForest}
    {taken before : List Diagnostic} (took : template.takeAll around.settings arguments = .ok (given, taken))
    (bind : template.bindFrom contexts.child given 0 template.parameters (contexts.fresh parent) =
      (bound, .ok (⟨⟩, before)))
    (failed : template.block.run around contexts.child bound = (last, .error fault)) :
    template.instantiate around parent arguments contexts = (last, .error fault) := by
  have lifted : (liftM (template.takeAll around.settings arguments) : Run Given) (contexts.fresh parent) =
      (contexts.fresh parent, .ok (given, taken)) := Run.lift_eq_ok.2 ⟨rfl, took⟩
  unfold instantiate
  rw [Run.newChild_bind]
  refine Run.bind_eq_error.2 (.inr ⟨_, _, _, lifted, ?_⟩)
  exact Run.bind_eq_error.2 (.inr ⟨_, _, _, bind, failed⟩)

end Runs

/-! ### The knot -/

namespace Knot

/-- The name of the function, declared outside the template. -/
def again : Symbol := ⟨18, "again", ⟨1⟩⟩

/-- The only parameter of the template. -/
def input : Symbol := ⟨19, "input", ⟨2⟩⟩

/-- Where nothing depends on it. -/
def place : Span := .atStart 0

/-- What the function is called with, and what it calls itself with. -/
def one : Value := .ofQuantity (.ofNumber 1)

/-- A call of the name with an argument. -/
def callOf (argument : Expr) : Expr := .call (.symbol again place) [.positional argument] place

/-- A template of one statement, which hands its parameter on. -/
def template : Template :=
  (Template.ofStatements "again" ⟨2⟩ [⟨input, .plainNumber, none⟩] [.result (callOf (.symbol input place))]).1

/-- The template as a function inside the inner one of two contexts. -/
def function : Value := .ofFunction (template.signature .plainNumber) ⟨4⟩

/-- Binds the name to a builtin function in an outer context, makes the function in an inner one, and binds it to
the name there. -/
def operations : List Operation :=
  [.newScope Session.rootScope, .declare ⟨1⟩ "again", .newScope ⟨1⟩, .declare ⟨2⟩ "input",
    .newContext (some Session.rootContext), .define ⟨1⟩ again Builtin.abs.value, .newContext (some ⟨1⟩),
    .newFunction ⟨2⟩ template, .define ⟨2⟩ again function]

def session : Session := Session.after operations

theorem functions : session.functions.get? 4 = some (.template template ⟨2⟩) := by rfl

theorem value?_again : session.contexts.value? ⟨2⟩ again = some function := by rfl

/-- The contexts around the inner one, and it itself, are there. -/
theorem path_inside : (2 : Nat) < session.contexts.nodes.size ∧
    ∀ outer ∈ session.contexts.path ⟨2⟩, outer.index < session.contexts.nodes.size := by
  have path : session.contexts.path ⟨2⟩ = [⟨2⟩, ⟨1⟩, ⟨0⟩] := by rfl
  rw [path]
  decide

/-- An instance changes nothing about what is seen in the inner context. -/
theorem instance_persists {contexts : ContextForest} (persists : session.contexts.Persists contexts ⟨2⟩)
    (added : List (Symbol × Value)) :
    session.contexts.Persists ((contexts.fresh ⟨2⟩).extend contexts.child added) ⟨2⟩ := by
  obtain ⟨inside, around⟩ := path_inside
  have grows := persists.grows
  have outside : contexts.child ∉ contexts.path ⟨2⟩ := by
    rw [persists.path inside]
    intro member
    have older : contexts.nodes.size < session.contexts.nodes.size := around _ member
    omega
  exact persists.trans (ContextForest.persists_fresh added (Nat.lt_of_lt_of_le inside grows) outside)

/-- Where the name is bound to the function, the call of it goes as deep as the function does. -/
theorem callOf_deep (env : Environment) (argument : Expr) (bound : env.value? again = some function)
    (given : argument.eval env = Reporting.give one)
    (deep : env.host.call ⟨4⟩ [one] = .error .tooDeep) : (callOf argument).eval env = .error .tooDeep := by
  have callee : (Expr.symbol again place).eval env = Reporting.give function := by
    simp only [Expr.eval, Environment.symbol, bound]
  have supplied : Argument.evalAll env [.positional argument] = Reporting.give [⟨none, one, argument.span⟩] := by
    simp only [Argument.evalAll, Argument.positional, Argument.eval, given]
    rfl
  have filled : (template.signature .plainNumber).bind env.settings [⟨none, one, argument.span⟩] place =
      Reporting.give (some [one]) := by rfl
  have invoked : env.invoke (.function (template.signature .plainNumber)) function [one] place =
      .error .tooDeep := by
    rw [function, Environment.invoke_known rfl (by decide), deep]
    rfl
  have called : env.call function [⟨none, one, argument.span⟩] place place = .error .tooDeep := by
    rw [Environment.call_of_callable rfl rfl]
    change ((template.signature .plainNumber).bind env.settings [⟨none, one, argument.span⟩] place >>= _) = _
    rw [filled]
    exact (Reporting.give_andThen _ _).trans invoked
  rw [callOf, Environment.eval_call callee supplied]
  exact congrArg (Except.map _) called

/-- The function goes too deep at every depth, in whatever contexts it is called, as long as the inner context
still binds the name to it. -/
theorem function_deep (depth : Nat) {contexts : ContextForest}
    (persists : session.contexts.Persists contexts ⟨2⟩) :
    (session.hostIn depth contexts).call ⟨4⟩ [one] = .error .tooDeep := by
  induction depth generalizing contexts with
  | zero => exact session.hostWith_template functions [one]
  | succ depth ih =>
    rw [Session.hostIn, session.hostWith_template functions [one], Session.callTemplate]
    have bind : template.bindFrom contexts.child [(0, one)] 0 template.parameters (contexts.fresh ⟨2⟩) =
        ((contexts.fresh ⟨2⟩).extend contexts.child [(input, one)], .ok (⟨⟩, [])) := by
      refine Template.bindFrom_cons_eq_ok.2 ⟨one, [], [], rfl, ContextForest.isSealed_fresh, ?_, rfl, rfl⟩
      exact ContextForest.direct?_fresh_child input
    -- the block runs in a context that binds the parameter and, around it, still finds the function
    have again_bound : ((contexts.fresh ⟨2⟩).extend contexts.child [(input, one)]).value? contexts.child again =
        some function := by
      rw [ContextForest.value?_fresh, persists.values again, value?_again]
      rfl
    have input_bound : ((contexts.fresh ⟨2⟩).extend contexts.child [(input, one)]).value? contexts.child input =
        some one := by
      rw [ContextForest.value?_fresh]
      rfl
    have deeper := ih (instance_persists persists [(input, one)])
    have given : (Expr.symbol input place).eval
        ((⟨session.scopes, session.hostIn depth, .standard⟩ : Surroundings).environment
          ((contexts.fresh ⟨2⟩).extend contexts.child [(input, one)]) contexts.child) = Reporting.give one := by
      simp only [Expr.eval, Environment.symbol, Surroundings.environment, input_bound]
    have body := callOf_deep _ _ again_bound given deeper
    have ran : template.instantiate ⟨session.scopes, session.hostIn depth, .standard⟩ ⟨2⟩
        (template.named [one]) contexts = (_, .error .tooDeep) :=
      Template.instantiate_of_error rfl bind
        (Block.run_of_error (Statement.runAll_cons_of_error (Statement.run_result_of_error body)))
    rw [ran]

end Knot

/-- Not everything ends: where a function finds itself, no depth settles what a call of it comes to. -/
theorem Session.recursion_never_ends :
    ¬∀ (operations : List Operation) (settings : Settings) (context : ContextId) (expr : Expr),
      Ends ((Session.after operations).evaluateAt settings context expr) := by
  intro all
  obtain ⟨depth, ends⟩ := all Knot.operations .standard ⟨2⟩ (Knot.callOf (.literal Knot.one Knot.place))
  have deep := Knot.function_deep depth (.refl Knot.session.contexts ⟨2⟩)
  have call_deep := Knot.callOf_deep
    ((Knot.session.surroundingsAt depth .standard).environment Knot.session.contexts ⟨2⟩)
    (.literal Knot.one Knot.place) Knot.value?_again rfl deep
  exact ends call_deep

end Circuitry
