import Circuitry.Expr.Evaluation

/-!
# What an evaluation depends on

The value of an expression and its diagnostics depend on the host, the settings, and the values of the symbols
to which the expression refers, and on nothing else.
-/

set_option autoImplicit false

namespace Circuitry

/-- Two environments that differ at most in the values of other symbols than the given ones. -/
structure Environment.AgreesOn (env : Environment) (symbols : List Symbol) (other : Environment) : Prop where
  host : env.host = other.host
  settings : env.settings = other.settings
  values : ∀ symbol ∈ symbols, env.value? symbol = other.value? symbol

namespace Environment.AgreesOn

variable {env other : Environment}

theorem mono {symbols fewer : List Symbol} (agrees : env.AgreesOn symbols other) (subset : fewer ⊆ symbols) :
    env.AgreesOn fewer other :=
  ⟨agrees.host, agrees.settings, fun symbol member => agrees.values symbol (subset member)⟩

theorem left {first second : List Symbol} (agrees : env.AgreesOn (first ++ second) other) :
    env.AgreesOn first other :=
  agrees.mono (List.subset_append_left first second)

theorem right {first second : List Symbol} (agrees : env.AgreesOn (first ++ second) other) :
    env.AgreesOn second other :=
  agrees.mono (List.subset_append_right first second)

theorem symbol {symbols : List Symbol} (agrees : env.AgreesOn symbols other) {symbol : Symbol}
    (member : symbol ∈ symbols) (span : Span) : env.symbol symbol span = other.symbol symbol span := by
  simp only [Environment.symbol, agrees.values symbol member]

theorem call {symbols : List Symbol} (agrees : env.AgreesOn symbols other) (callee : Value)
    (supplied : List Supplied) (calleeSpan span : Span) :
    env.call callee supplied calleeSpan span = other.call callee supplied calleeSpan span := by
  simp only [Environment.call, Environment.invoke, agrees.host, agrees.settings]

theorem access {symbols : List Symbol} (agrees : env.AgreesOn symbols other) (target : Value) (name : String)
    (span : Span) : env.access target name span = other.access target name span := by
  simp only [Environment.access, agrees.host, agrees.settings]

end Environment.AgreesOn

mutual

/-- Environments that agree on the symbols of an expression give it the same value. -/
theorem Expr.eval_congr {env other : Environment} :
    ∀ expr : Expr, env.AgreesOn expr.symbols other → expr.eval env = expr.eval other
  | .literal _ _, _ => rfl
  | .symbol symbol span, agrees => agrees.symbol (List.mem_singleton_self symbol) span
  | .unary _ operand _, agrees => by
    simp only [Expr.eval, operand.eval_congr agrees]
  | .binary _ left right _, agrees => by
    simp only [Expr.eval, left.eval_congr agrees.left, right.eval_congr agrees.right]
  | .call callee arguments _, agrees => by
    simp only [Expr.eval, callee.eval_congr agrees.left, Argument.evalAll_congr arguments agrees.right,
      agrees.call]
  | .access target _ _, agrees => by
    simp only [Expr.eval, target.eval_congr agrees, agrees.access]
  | .index target key _, agrees => by
    simp only [Expr.eval, target.eval_congr agrees.left, key.eval_congr agrees.right]
termination_by structural expr => expr

theorem Argument.evalAll_congr {env other : Environment} :
    ∀ arguments : List Argument, env.AgreesOn (Argument.symbols arguments) other →
      Argument.evalAll env arguments = Argument.evalAll other arguments
  | [], _ => rfl
  | argument :: rest, agrees => by
    simp only [Argument.evalAll, argument.eval_congr agrees.left, Argument.evalAll_congr rest agrees.right]
termination_by structural arguments => arguments

theorem Argument.eval_congr {env other : Environment} :
    ∀ argument : Argument, env.AgreesOn argument.ownSymbols other → argument.eval env = argument.eval other
  | ⟨_, value, _⟩, agrees => by
    simp only [Argument.eval, value.eval_congr agrees]
termination_by structural argument => argument

end

end Circuitry
