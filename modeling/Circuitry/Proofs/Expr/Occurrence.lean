import Circuitry.Proofs.Expr.Reference
import Circuitry.Proofs.Expr.Reports

/-!
# Occurrences of symbols

Evaluating an expression looks up each occurrence of a symbol once, in the order in which the occurrences are
listed, whatever else goes wrong around it. So each occurrence of a symbol that is not bound is reported once, at
its place, and no other node reports an undefined symbol.
-/

set_option autoImplicit false

namespace Circuitry

mutual

/-- Every occurrence of a symbol in an expression with its place, from left to right. -/
def Expr.occurrences : Expr → List (Symbol × Span)
  | .literal _ _ => []
  | .symbol symbol span => [(symbol, span)]
  | .unary _ operand _ => operand.occurrences
  | .binary _ left right _ => left.occurrences ++ right.occurrences
  | .call callee arguments _ => callee.occurrences ++ Argument.occurrences arguments
  | .access target _ _ => target.occurrences
  | .index target key _ => target.occurrences ++ key.occurrences
termination_by structural expr => expr

/-- Every occurrence of a symbol in some arguments with its place. -/
def Argument.occurrences : List Argument → List (Symbol × Span)
  | [] => []
  | argument :: rest => argument.ownOccurrences ++ Argument.occurrences rest
termination_by structural arguments => arguments

/-- Every occurrence of a symbol in an argument with its place. -/
def Argument.ownOccurrences : Argument → List (Symbol × Span)
  | ⟨_, value, _⟩ => value.occurrences
termination_by structural argument => argument

end

mutual

/-- The occurrences are those that the dependencies of statements are read off. -/
theorem Expr.map_occurrences : ∀ expr : Expr, expr.occurrences.map Prod.fst = expr.symbols
  | .literal _ _ => rfl
  | .symbol _ _ => rfl
  | .unary _ operand _ => operand.map_occurrences
  | .binary _ left right _ => by
    simp only [Expr.occurrences, Expr.symbols, List.map_append, left.map_occurrences, right.map_occurrences]
  | .call callee arguments _ => by
    simp only [Expr.occurrences, Expr.symbols, List.map_append, callee.map_occurrences,
      Argument.map_occurrences arguments]
  | .access target _ _ => target.map_occurrences
  | .index target key _ => by
    simp only [Expr.occurrences, Expr.symbols, List.map_append, target.map_occurrences, key.map_occurrences]
termination_by structural expr => expr

theorem Argument.map_occurrences :
    ∀ arguments : List Argument, (Argument.occurrences arguments).map Prod.fst = Argument.symbols arguments
  | [] => rfl
  | argument :: rest => by
    simp only [Argument.occurrences, Argument.symbols, List.map_append, argument.map_ownOccurrences,
      Argument.map_occurrences rest]
termination_by structural arguments => arguments

theorem Argument.map_ownOccurrences :
    ∀ argument : Argument, argument.ownOccurrences.map Prod.fst = argument.ownSymbols
  | ⟨_, value, _⟩ => value.map_occurrences
termination_by structural argument => argument

end

/-- The report of an occurrence of a symbol that is not bound. -/
def undefinedReport (occurrence : Symbol × Span) : Diagnostic :=
  .error .undefinedSymbol (some occurrence.2) ("symbol '" ++ occurrence.1.name ++ "' not yet defined")

namespace Environment

variable (env : Environment)

/-- The reports of those occurrences whose symbols are not bound. -/
def undefinedReports (occurrences : List (Symbol × Span)) : List Diagnostic :=
  (occurrences.filter fun occurrence => (env.value? occurrence.1).isNone).map undefinedReport

@[simp] theorem undefinedReports_append (occurrences others : List (Symbol × Span)) :
    env.undefinedReports (occurrences ++ others) =
      env.undefinedReports occurrences ++ env.undefinedReports others := by
  simp [undefinedReports]

open Reporting (ReportsOf)

theorem symbol_undefined (symbol : Symbol) (span : Span) :
    ReportsOf .undefinedSymbol (env.undefinedReports [(symbol, span)]) (env.symbol symbol span) := by
  unfold Environment.symbol undefinedReports
  cases found : env.value? symbol with
  | some value =>
    simp only [List.filter, found]
    exact .give value
  | none =>
    simp only [List.filter, found]
    exact .recover rfl _

end Environment

open Environment
open Reporting (ReportsOf)

mutual

/-- Evaluation reports undefined symbols for the occurrences of symbols that are not bound, and for nothing else. -/
theorem Expr.eval_undefined (env : Environment) :
    ∀ expr : Expr, ReportsOf .undefinedSymbol (env.undefinedReports expr.occurrences) (expr.eval env)
  | .literal value _ => .give value
  | .symbol symbol span => env.symbol_undefined symbol span
  | .unary operator operand span =>
    (operand.eval_undefined env).bind_other (fun value => unary_reports operator value span) fun _ is => by simp [is]
  | .binary operator left right span => by
    rw [Expr.occurrences, undefinedReports_append]
    refine (left.eval_undefined env).bind fun leftValue => ?_
    exact (right.eval_undefined env).bind_other
      (fun rightValue => binary_reports operator leftValue rightValue left.span right.span span)
      fun _ is => by rcases is with is | is <;> simp [is]
  | .call callee arguments span => by
    rw [Expr.occurrences, undefinedReports_append]
    refine (callee.eval_undefined env).bind fun calleeValue => ?_
    exact (Argument.evalAll_undefined env arguments).bind_other
      (fun supplied => env.call_reports calleeValue supplied callee.span span)
      fun _ is => by
        rcases is with is | ofArguments | is
        · simp [is]
        · exact ofArguments.ne_undefinedSymbol
        · simp [is]
  | .access target name span =>
    (target.eval_undefined env).bind_other (fun value => env.access_reports value name span)
      fun _ is => by rcases is with is | is <;> simp [is]
  | .index target key span => by
    rw [Expr.occurrences, undefinedReports_append]
    refine (target.eval_undefined env).bind fun value => ?_
    exact (key.eval_undefined env).bind_other (fun keyValue => index_reports value keyValue span)
      fun _ is => by rcases is with is | is <;> simp [is]
termination_by structural expr => expr

theorem Argument.evalAll_undefined (env : Environment) :
    ∀ arguments : List Argument,
      ReportsOf .undefinedSymbol (env.undefinedReports (Argument.occurrences arguments)) (Argument.evalAll env arguments)
  | [] => .give []
  | argument :: rest => by
    rw [Argument.occurrences, undefinedReports_append]
    exact (argument.eval_undefined env).bind fun first =>
      (Argument.evalAll_undefined env rest).bind_give fun others => first :: others
termination_by structural arguments => arguments

theorem Argument.eval_undefined (env : Environment) :
    ∀ argument : Argument,
      ReportsOf .undefinedSymbol (env.undefinedReports argument.ownOccurrences) (argument.eval env)
  | ⟨name, value, span⟩ => (value.eval_undefined env).bind_give fun result => Supplied.mk name result span
termination_by structural argument => argument

end

end Circuitry
