import Circuitry.Expr.Evaluation
import Circuitry.Proofs.Report.Reporting
import Mathlib.Data.List.Basic

/-!
# Reports of parts

A node evaluates its parts one after the other, whatever comes of them, and looks at their values only then. So what it
reports is what its parts report, each on its own, followed by what the node itself has to say. By going down from
part to part, each subexpression has its place in the reports of the whole: what it reports stands there in one piece,
behind all that was evaluated before it.
-/

set_option autoImplicit false

namespace Circuitry

/-! ### Parts and positions -/

/-- The expressions that are evaluated for an expression, in the order of their evaluation. -/
def Expr.parts : Expr → List Expr
  | .literal _ _ => []
  | .symbol _ _ => []
  | .unary _ operand _ => [operand]
  | .binary _ left right _ => [left, right]
  | .call callee arguments _ => callee :: arguments.map Argument.value
  | .access target _ _ => [target]
  | .index target key _ => [target, key]

/-- The subexpression at a position, which tells which part to go to, which part of that part, and so on. -/
def Expr.subexpr? (expr : Expr) : List Nat → Option Expr
  | [] => some expr
  | number :: position => (expr.parts[number]?).bind fun part => part.subexpr? position

/-- What evaluating an expression reports, if no fault ends it. -/
def Expr.reports (env : Environment) (expr : Expr) : List Diagnostic :=
  match expr.eval env with
  | .ok (_, diagnostics) => diagnostics
  | .error _ => []

/-- How much is reported before the subexpression at a position is evaluated: all that comes from earlier parts on the
way to it. -/
def Expr.offset (env : Environment) (expr : Expr) : List Nat → Nat
  | [] => 0
  | number :: position =>
    ((expr.parts.take number).flatMap (Expr.reports env)).length +
      ((expr.parts[number]?).map fun part => part.offset env position).getD 0

variable {env : Environment} {expr part other : Expr}

/-! ### One node -/

/-- No fault ends the evaluation of an expression. -/
def Expr.Returns (env : Environment) (expr : Expr) : Prop := ∃ value, expr.eval env = .ok (value, expr.reports env)

theorem Expr.returns_of_ok {value : Value} {diagnostics : List Diagnostic}
    (evaluated : expr.eval env = .ok (value, diagnostics)) : expr.Returns env ∧ expr.reports env = diagnostics := by
  have reported : expr.reports env = diagnostics := by rw [Expr.reports, evaluated]
  exact ⟨⟨value, by rw [reported, evaluated]⟩, reported⟩

open Reporting (bind_eq_ok)

/-- All arguments are evaluated, and nothing else is reported. -/
theorem Argument.evalAll_parts {arguments : List Argument} {supplied : List Supplied} {diagnostics : List Diagnostic}
    (evaluated : Argument.evalAll env arguments = .ok (supplied, diagnostics)) :
    (∀ part ∈ arguments.map Argument.value, part.Returns env) ∧
      diagnostics = (arguments.map Argument.value).flatMap (Expr.reports env) := by
  induction arguments generalizing supplied diagnostics with
  | nil =>
    cases evaluated
    exact ⟨nofun, rfl⟩
  | cons argument rest ih =>
    obtain ⟨first, before, _, evaluatedFirst, evaluatedRest, rfl⟩ := bind_eq_ok.1 evaluated
    obtain ⟨others, after, _, evaluatedOthers, ⟨⟩, rfl⟩ := bind_eq_ok.1 evaluatedRest
    obtain ⟨name, operand, span⟩ := argument
    obtain ⟨value, _, _, evaluatedValue, ⟨⟩, rfl⟩ := bind_eq_ok.1 evaluatedFirst
    obtain ⟨returns, reported⟩ := Expr.returns_of_ok evaluatedValue
    obtain ⟨returnsRest, rfl⟩ := ih evaluatedOthers
    refine ⟨List.forall_mem_cons.2 ⟨returns, returnsRest⟩, ?_⟩
    rw [List.map_cons, List.flatMap_cons, reported, List.append_nil, List.append_nil]

/-- What a node reports after its only operand. -/
theorem Expr.eval_operand {operand : Expr} {next : Value → Reporting Value} {value : Value}
    {diagnostics : List Diagnostic} (evaluated : (operand.eval env >>= next) = .ok (value, diagnostics)) :
    (∀ part ∈ [operand], part.Returns env) ∧
      ∃ own, diagnostics = [operand].flatMap (Expr.reports env) ++ own := by
  obtain ⟨_, _, own, evaluatedOperand, -, rfl⟩ := bind_eq_ok.1 evaluated
  obtain ⟨returns, rfl⟩ := Expr.returns_of_ok evaluatedOperand
  exact ⟨List.forall_mem_singleton.2 returns, own, by simp⟩

/-- What a node reports after both of its operands. -/
theorem Expr.eval_operands {left right : Expr} {next : Value → Value → Reporting Value} {value : Value}
    {diagnostics : List Diagnostic}
    (evaluated : (left.eval env >>= fun first => right.eval env >>= next first) = .ok (value, diagnostics)) :
    (∀ part ∈ [left, right], part.Returns env) ∧
      ∃ own, diagnostics = [left, right].flatMap (Expr.reports env) ++ own := by
  obtain ⟨_, _, _, evaluatedLeft, evaluatedRest, rfl⟩ := bind_eq_ok.1 evaluated
  obtain ⟨_, _, own, evaluatedRight, -, rfl⟩ := bind_eq_ok.1 evaluatedRest
  obtain ⟨returns, rfl⟩ := Expr.returns_of_ok evaluatedLeft
  obtain ⟨returns', rfl⟩ := Expr.returns_of_ok evaluatedRight
  exact ⟨List.forall_mem_cons.2 ⟨returns, List.forall_mem_singleton.2 returns'⟩, own, by simp⟩

/-- What an expression reports is what its parts report, and then what it reports itself. -/
theorem Expr.eval_parts {value : Value} {diagnostics : List Diagnostic}
    (evaluated : expr.eval env = .ok (value, diagnostics)) :
    (∀ part ∈ expr.parts, part.Returns env) ∧
      ∃ own, diagnostics = expr.parts.flatMap (Expr.reports env) ++ own := by
  cases expr with
  | literal | symbol => exact ⟨nofun, diagnostics, rfl⟩
  | unary | access => exact Expr.eval_operand evaluated
  | binary | index => exact Expr.eval_operands evaluated
  | call callee arguments span =>
    obtain ⟨_, _, _, evaluatedCallee, evaluatedRest, rfl⟩ := bind_eq_ok.1 evaluated
    obtain ⟨_, _, own, evaluatedArguments, -, rfl⟩ := bind_eq_ok.1 evaluatedRest
    obtain ⟨returns, rfl⟩ := Expr.returns_of_ok evaluatedCallee
    obtain ⟨returnsAll, rfl⟩ := Argument.evalAll_parts evaluatedArguments
    refine ⟨List.forall_mem_cons.2 ⟨returns, returnsAll⟩, own, ?_⟩
    rw [Expr.parts, List.flatMap_cons, List.append_assoc]

theorem Expr.Returns.parts (returns : expr.Returns env) : ∀ part ∈ expr.parts, part.Returns env := by
  obtain ⟨value, evaluated⟩ := returns
  exact (Expr.eval_parts evaluated).1

theorem Expr.Returns.reports_eq (returns : expr.Returns env) :
    ∃ own, expr.reports env = expr.parts.flatMap (Expr.reports env) ++ own := by
  obtain ⟨value, evaluated⟩ := returns
  exact (Expr.eval_parts evaluated).2

/-! ### All positions -/

namespace Expr

theorem subexpr?_cons {number : Nat} {position : List Nat} (found : expr.subexpr? (number :: position) = some part) :
    ∃ child, expr.parts[number]? = some child ∧ child.subexpr? position = some part :=
  Option.bind_eq_some_iff.1 found

theorem offset_cons {number : Nat} {position : List Nat} {child : Expr} (isPart : expr.parts[number]? = some child) :
    expr.offset env (number :: position) =
      ((expr.parts.take number).flatMap (Expr.reports env)).length + child.offset env position := by
  rw [offset, isPart]
  rfl

/-- What a subexpression reports stands in one piece in what the whole reports, at its offset. -/
theorem Returns.block (returns : expr.Returns env) {position : List Nat}
    (found : expr.subexpr? position = some part) :
    part.Returns env ∧ ∃ before after, expr.reports env = before ++ part.reports env ++ after ∧
      before.length = expr.offset env position := by
  induction position generalizing expr with
  | nil =>
    cases found
    exact ⟨returns, [], [], by simp, rfl⟩
  | cons number position ih =>
    obtain ⟨child, isPart, inside⟩ := subexpr?_cons found
    obtain ⟨inRange, is⟩ := List.getElem?_eq_some_iff.1 isPart
    obtain ⟨returnsPart, before, after, reported, length⟩ :=
      ih (returns.parts child (List.mem_of_getElem? isPart)) inside
    obtain ⟨own, all⟩ := returns.reports_eq
    refine ⟨returnsPart, (expr.parts.take number).flatMap (Expr.reports env) ++ before,
      after ++ (expr.parts.drop (number + 1)).flatMap (Expr.reports env) ++ own, ?_, ?_⟩
    · have split : expr.parts = expr.parts.take number ++ child :: expr.parts.drop (number + 1) := by
        rw [← is, ← List.drop_eq_getElem_cons inRange, List.take_append_drop]
      rw [all]
      conv_lhs => rw [split]
      rw [List.flatMap_append, List.flatMap_cons, reported]
      simp only [List.append_assoc]
    · rw [List.length_append, length, offset_cons isPart]

theorem Returns.block_le (returns : expr.Returns env) {position : List Nat}
    (found : expr.subexpr? position = some part) :
    expr.offset env position + (part.reports env).length ≤ (expr.reports env).length := by
  obtain ⟨-, before, after, reported, length⟩ := returns.block found
  rw [reported, List.length_append, List.length_append, length]
  omega

/-- All that an earlier part reports comes before a later part. -/
theorem reports_take_le (env : Environment) {number later : Nat} {child : Expr}
    (isPart : expr.parts[number]? = some child) (before : number < later) :
    ((expr.parts.take number).flatMap (Expr.reports env)).length + (child.reports env).length ≤
      ((expr.parts.take later).flatMap (Expr.reports env)).length := by
  have through : expr.parts.take (number + 1) = expr.parts.take number ++ [child] := by
    rw [List.take_add_one, isPart]
    rfl
  have split : expr.parts.take later = expr.parts.take number ++ [child] ++ (expr.parts.take later).drop (number + 1) := by
    have shorter : (expr.parts.take later).take (number + 1) = expr.parts.take (number + 1) := by
      rw [List.take_take, Nat.min_eq_left before]
    rw [← through, ← shorter, List.take_append_drop]
  rw [split]
  simp only [List.flatMap_append, List.length_append, List.flatMap_singleton]
  omega

/-- Of two subexpressions, neither inside the other, all that the earlier one reports comes before the later one. -/
theorem Returns.order (returns : expr.Returns env) {position later : List Nat}
    (found : expr.subexpr? position = some part) (found' : expr.subexpr? later = some other) (before : position < later)
    (outside : ¬position <+: later) :
    expr.offset env position + (part.reports env).length ≤ expr.offset env later := by
  induction position generalizing expr later with
  | nil => exact absurd (List.nil_prefix) outside
  | cons number position ih =>
    cases later with
    | nil => cases before
    | cons number' later =>
      obtain ⟨child, isPart, inside⟩ := subexpr?_cons found
      obtain ⟨child', isPart', inside'⟩ := subexpr?_cons found'
      have returnsPart := returns.parts child (List.mem_of_getElem? isPart)
      rw [offset_cons isPart, offset_cons isPart']
      rcases List.cons_lt_cons_iff.1 before with earlier | ⟨rfl, beyond⟩
      · have fits := returnsPart.block_le inside
        have comes := reports_take_le env isPart earlier
        omega
      · cases isPart.symm.trans isPart'
        have ordered := ih returnsPart inside inside' beyond (mt (List.prefix_cons_inj number).2 outside)
        omega

end Expr

end Circuitry
