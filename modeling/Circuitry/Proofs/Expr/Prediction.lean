import Circuitry.Proofs.Expr.CallForecast

/-!
# What an evaluation foretells of later ones

The value of an expression, evaluated with less known, foretells its value once more is known. This is the
induction over expressions; what each kind of node contributes is said elsewhere.
-/

set_option autoImplicit false

namespace Circuitry

variable {registry : Registry} {lenient : Bool}

open Reporting (Forecasts)

mutual

/-- An evaluation against bindings that foretell other ones foretells the other evaluation. -/
theorem Expr.eval_forecasts {env other : Environment} (forecast : env.Forecast registry lenient other) :
    ∀ expr : Expr, (∀ value ∈ expr.literals, value.wellFormed registry = true) →
      Forecasts registry lenient (expr.eval env) (expr.eval other)
  | .literal value _, literals => by
    have sound := literals value (by simp [Expr.literals])
    exact .give ⟨sound, sound, .of_refined (.refl sound)⟩
  | .symbol symbol span, _ => Environment.symbol_forecasts forecast symbol span
  | .unary operator operand span, literals =>
    (operand.eval_forecasts forecast literals).bind fun _ _ _ _ _ _ forecastOperand =>
      Environment.unary_forecasts operator forecastOperand span
  | .binary operator left right span, literals => by
    simp only [Expr.literals, List.forall_mem_append] at literals
    exact (left.eval_forecasts forecast literals.1).bind fun _ _ _ _ _ _ forecastLeft =>
      (right.eval_forecasts forecast literals.2).bind fun _ _ _ _ _ _ forecastRight =>
        Environment.binary_forecasts operator forecastLeft forecastRight left.span right.span span
  | .call callee arguments span, literals => by
    simp only [Expr.literals, List.forall_mem_append] at literals
    exact (callee.eval_forecasts forecast literals.1).bind fun _ _ _ _ _ _ forecastCallee =>
      (Argument.evalAll_forecasts forecast arguments literals.2).bind fun _ _ _ _ _ _ pairs =>
        Environment.call_forecasts forecast forecastCallee pairs callee.span span
  | .access target name span, literals =>
    (target.eval_forecasts forecast literals).bind fun _ _ _ _ _ _ forecastTarget =>
      Environment.access_forecasts forecast forecastTarget name span
  | .index target key span, literals => by
    simp only [Expr.literals, List.forall_mem_append] at literals
    exact (target.eval_forecasts forecast literals.1).bind fun _ _ _ _ _ _ forecastTarget =>
      (key.eval_forecasts forecast literals.2).bind fun _ _ _ _ _ _ forecastKey =>
        Environment.index_forecasts forecastTarget forecastKey span
termination_by structural expr => expr

theorem Argument.evalAll_forecasts {env other : Environment}
    (forecast : env.Forecast registry lenient other) :
    ∀ arguments : List Argument, (∀ value ∈ Argument.literals arguments, value.wellFormed registry = true) →
      Reporting.Foretells lenient (List.Forall₂ (Supplied.Forecast registry lenient))
        (Argument.evalAll env arguments) (Argument.evalAll other arguments)
  | [], _ => .give .nil
  | argument :: rest, literals => by
    simp only [Argument.literals, List.forall_mem_append] at literals
    exact (argument.eval_forecasts forecast literals.1).bind fun _ _ _ _ _ _ first =>
      (Argument.evalAll_forecasts forecast rest literals.2).bind fun _ _ _ _ _ _ others =>
        .give (.cons first others)
termination_by structural arguments => arguments

theorem Argument.eval_forecasts {env other : Environment} (forecast : env.Forecast registry lenient other) :
    ∀ argument : Argument, (∀ value ∈ argument.ownLiterals, value.wellFormed registry = true) →
      Reporting.Foretells lenient (Supplied.Forecast registry lenient) (argument.eval env)
        (argument.eval other)
  | ⟨_, value, _⟩, literals =>
    (value.eval_forecasts forecast literals).bind fun _ _ _ _ _ _ forecastValue =>
      .give ⟨rfl, forecastValue, rfl⟩
termination_by structural argument => argument

end

end Circuitry
