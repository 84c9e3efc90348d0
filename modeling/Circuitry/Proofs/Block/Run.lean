import Circuitry.Block.Run
import Circuitry.Proofs.Report.Reporting
import Circuitry.Proofs.Scope.Context

/-!
# Runs taken apart

A run that no fault ends is the run of its first part followed by that of the rest, and its diagnostics are
those of both in this order. What one statement does to the contexts is one binding more, or nothing.
-/

set_option autoImplicit false

namespace Circuitry

namespace Run

variable {α β : Type}

theorem bind_of_ok {first : Run α} {next : α → Run β} {contexts middle last : ContextForest} {value : α}
    {result : β} {before after : List Diagnostic} (gave : first contexts = (middle, .ok (value, before)))
    (gives : next value middle = (last, .ok (result, after))) :
    (first >>= next) contexts = (last, .ok (result, before ++ after)) := by
  change first.andThen next contexts = _
  simp only [andThen, gave, gives]

/-- A sequence gives a value only if both of its parts do. -/
theorem bind_eq_ok {first : Run α} {next : α → Run β} {contexts last : ContextForest} {result : β}
    {diagnostics : List Diagnostic} :
    (first >>= next) contexts = (last, .ok (result, diagnostics)) ↔
      ∃ value middle before after, first contexts = (middle, .ok (value, before)) ∧
        next value middle = (last, .ok (result, after)) ∧ diagnostics = before ++ after := by
  constructor
  · intro gives
    change first.andThen next contexts = _ at gives
    unfold andThen at gives
    split at gives
    · cases gives
    · rename_i middle value before gave
      split at gives
      · cases gives
      · rename_i last' made after later
        cases gives
        exact ⟨value, middle, before, after, gave, later, rfl⟩
  · rintro ⟨value, middle, before, after, gave, gives, rfl⟩
    exact bind_of_ok gave gives

/-- A fault in a sequence is that of its first part, or that of the rest. -/
theorem bind_eq_error {first : Run α} {next : α → Run β} {contexts last : ContextForest} {fault : Fault} :
    (first >>= next) contexts = (last, .error fault) ↔
      first contexts = (last, .error fault) ∨
        ∃ value middle before, first contexts = (middle, .ok (value, before)) ∧
          next value middle = (last, .error fault) := by
  change first.andThen next contexts = _ ↔ _
  unfold andThen
  split
  · rename_i middle early failed
    constructor
    · intro same
      cases same
      exact .inl failed
    · rintro (same | ⟨_, _, _, gave, -⟩)
      · cases failed.symm.trans same
        rfl
      · cases failed.symm.trans gave
  · rename_i middle value before gave
    constructor
    · intro fails
      split at fails
      · rename_i failed
        cases fails
        exact .inr ⟨value, middle, before, gave, failed⟩
      · cases fails
    · rintro (failed | ⟨_, _, _, same, failed⟩)
      · cases gave.symm.trans failed
      · cases gave.symm.trans same
        simp only [failed]

/-- What follows the making of a context takes place with the context made. -/
theorem newChild_bind (parent : ContextId) (next : ContextId → Run α) (contexts : ContextForest) :
    (newChild parent >>= next) contexts = next contexts.child (contexts.fresh parent) := by
  change (newChild parent).andThen next contexts = _
  have made : newChild parent contexts = (contexts.fresh parent, .ok (contexts.child, [])) := rfl
  simp only [andThen, made]
  rcases next contexts.child (contexts.fresh parent) with ⟨last, fault | ⟨value, diagnostics⟩⟩ <;> rfl

/-- A value that is given without a report is all that what follows takes up. -/
theorem lift_give_bind (value : α) (next : α → Run β) :
    ((liftM (Reporting.give value) : Run α) >>= next) = next value := by
  funext contexts
  have given : (liftM (Reporting.give value) : Run α) contexts = (contexts, .ok (value, [])) := rfl
  change andThen _ next contexts = _
  simp only [andThen, given]
  rcases next value contexts with ⟨last, fault | ⟨result, diagnostics⟩⟩ <;> rfl

/-- Reading leaves the contexts alone. -/
theorem reading_eq_ok {computation : ContextForest → Reporting α} {contexts last : ContextForest}
    {value : α} {diagnostics : List Diagnostic} :
    reading computation contexts = (last, .ok (value, diagnostics)) ↔
      last = contexts ∧ computation contexts = .ok (value, diagnostics) := by
  constructor
  · intro ran
    exact ⟨(congrArg Prod.fst ran).symm, congrArg Prod.snd ran⟩
  · rintro ⟨rfl, gives⟩
    exact congrArg (Prod.mk last) gives

theorem lift_eq_ok {computation : Reporting α} {contexts last : ContextForest} {value : α}
    {diagnostics : List Diagnostic} :
    (liftM computation : Run α) contexts = (last, .ok (value, diagnostics)) ↔
      last = contexts ∧ computation = .ok (value, diagnostics) :=
  reading_eq_ok

/-- Binding a symbol succeeds where the context takes bindings and binds it not yet. -/
theorem define_eq_ok {contexts last : ContextForest} {context : ContextId} {symbol : Symbol} {value : Value}
    {diagnostics : List Diagnostic} :
    Run.define context symbol value contexts = (last, .ok (⟨⟩, diagnostics)) ↔
      contexts.isSealed context = false ∧ contexts.direct? context symbol = none ∧
        last = contexts.extend context [(symbol, value)] ∧ diagnostics = [] := by
  have defined : contexts.define context symbol value = .ok last ↔ _ := ContextForest.define_eq_ok
  unfold Run.define
  cases made : contexts.define context symbol value with
  | error error =>
    constructor
    · intro same
      cases same
    · rintro ⟨unsealed, free, rfl, rfl⟩
      rw [defined.2 ⟨unsealed, free, rfl⟩] at made
      cases made
  | ok extended =>
    rw [made] at defined
    constructor
    · intro same
      cases same
      obtain ⟨unsealed, free, same⟩ := defined.1 rfl
      exact ⟨unsealed, free, same, rfl⟩
    · rintro ⟨unsealed, free, same, rfl⟩
      cases defined.2 ⟨unsealed, free, same⟩
      rfl

end Run

namespace Statement

variable {around : Surroundings} {context : ContextId}

theorem run_expr_eq_ok {expr : Expr} {contexts last : ContextForest} {value : Value}
    {diagnostics : List Diagnostic} :
    expr.run around context contexts = (last, .ok (value, diagnostics)) ↔
      last = contexts ∧ expr.eval (around.environment contexts context) = .ok (value, diagnostics) :=
  Run.reading_eq_ok

/-- An assignment evaluates its expression in the contexts as they are, and binds its symbol. -/
theorem run_assign_eq_ok {symbol : Symbol} {expr : Expr} {contexts last : ContextForest}
    {result : Option Value} {diagnostics : List Diagnostic} :
    (Statement.assign symbol expr).run around context contexts = (last, .ok (result, diagnostics)) ↔
      ∃ value, expr.eval (around.environment contexts context) = .ok (value, diagnostics) ∧
        contexts.isSealed context = false ∧ contexts.direct? context symbol = none ∧
        last = contexts.extend context [(symbol, value)] ∧ result = none := by
  change (expr.run around context >>= fun value => Run.define context symbol value >>= fun _ => Run.give none)
    contexts = _ ↔ _
  rw [Run.bind_eq_ok]
  constructor
  · rintro ⟨value, middle, before, after, evaluated, rest, rfl⟩
    obtain ⟨_, _, between, final, defined, gave, rfl⟩ := Run.bind_eq_ok.1 rest
    obtain ⟨rfl, evaluated⟩ := run_expr_eq_ok.1 evaluated
    obtain ⟨unsealed, free, rfl, rfl⟩ := Run.define_eq_ok.1 defined
    cases gave
    exact ⟨value, by simpa using evaluated, unsealed, free, rfl, rfl⟩
  · rintro ⟨value, evaluated, unsealed, free, rfl, rfl⟩
    refine ⟨value, contexts, diagnostics, [], run_expr_eq_ok.2 ⟨rfl, evaluated⟩, ?_, by simp⟩
    exact Run.bind_of_ok (Run.define_eq_ok.2 ⟨unsealed, free, rfl, rfl⟩) rfl

/-- Where a symbol can be bound, an assignment meets no fault but that of its expression. -/
theorem run_assign_eq_error {symbol : Symbol} {expr : Expr} {contexts last : ContextForest} {fault : Fault}
    (unsealed : contexts.isSealed context = false) (free : contexts.direct? context symbol = none)
    (failed : (Statement.assign symbol expr).run around context contexts = (last, .error fault)) :
    last = contexts ∧ expr.eval (around.environment contexts context) = .error fault := by
  change (expr.run around context >>= fun value => Run.define context symbol value >>= fun _ => Run.give none)
    contexts = _ at failed
  rcases Run.bind_eq_error.1 failed with first | ⟨value, middle, _, evaluated, rest⟩
  · exact ⟨(congrArg Prod.fst first).symm, congrArg Prod.snd first⟩
  · obtain ⟨rfl, -⟩ := run_expr_eq_ok.1 evaluated
    have defined : Run.define context symbol value middle =
        (middle.extend context [(symbol, value)], .ok (⟨⟩, [])) :=
      Run.define_eq_ok.2 ⟨unsealed, free, rfl, rfl⟩
    rcases Run.bind_eq_error.1 rest with impossible | ⟨_, _, _, -, impossible⟩
    · cases defined.symm.trans impossible
    · cases impossible

theorem run_result_eq_error {expr : Expr} {contexts last : ContextForest} {fault : Fault}
    (failed : (Statement.result expr).run around context contexts = (last, .error fault)) :
    last = contexts ∧ expr.eval (around.environment contexts context) = .error fault := by
  change (expr.run around context >>= fun value => Run.give (some value)) contexts = _ at failed
  rcases Run.bind_eq_error.1 failed with first | ⟨_, _, _, -, impossible⟩
  · exact ⟨(congrArg Prod.fst first).symm, congrArg Prod.snd first⟩
  · cases impossible

/-- A result evaluates its expression and leaves the contexts alone. -/
theorem run_result_eq_ok {expr : Expr} {contexts last : ContextForest} {result : Option Value}
    {diagnostics : List Diagnostic} :
    (Statement.result expr).run around context contexts = (last, .ok (result, diagnostics)) ↔
      ∃ value, expr.eval (around.environment contexts context) = .ok (value, diagnostics) ∧
        last = contexts ∧ result = some value := by
  change (expr.run around context >>= fun value => Run.give (some value)) contexts = _ ↔ _
  rw [Run.bind_eq_ok]
  constructor
  · rintro ⟨value, middle, before, after, evaluated, gave, rfl⟩
    obtain ⟨rfl, evaluated⟩ := run_expr_eq_ok.1 evaluated
    cases gave
    exact ⟨value, by simpa using evaluated, rfl, rfl⟩
  · rintro ⟨value, evaluated, rfl, rfl⟩
    exact ⟨value, last, diagnostics, [], run_expr_eq_ok.2 ⟨rfl, evaluated⟩, rfl, by simp⟩

theorem runAll_nil_eq_ok {contexts last : ContextForest} {result : Option Value}
    {diagnostics : List Diagnostic} :
    Statement.runAll around context [] contexts = (last, .ok (result, diagnostics)) ↔
      last = contexts ∧ result = none ∧ diagnostics = [] := by
  constructor
  · intro ran
    cases ran
    exact ⟨rfl, rfl, rfl⟩
  · rintro ⟨rfl, rfl, rfl⟩
    rfl

/-- The first statement runs before all others; a later result replaces its own. -/
theorem runAll_cons_eq_ok {statement : Statement} {rest : List Statement} {contexts last : ContextForest}
    {result : Option Value} {diagnostics : List Diagnostic} :
    Statement.runAll around context (statement :: rest) contexts = (last, .ok (result, diagnostics)) ↔
      ∃ earlier later middle before after,
        statement.run around context contexts = (middle, .ok (earlier, before)) ∧
        Statement.runAll around context rest middle = (last, .ok (later, after)) ∧
        result = later.or earlier ∧ diagnostics = before ++ after := by
  change (statement.run around context >>= fun earlier => Statement.runAll around context rest >>=
    fun later => Run.give (later <|> earlier)) contexts = _ ↔ _
  rw [Run.bind_eq_ok]
  constructor
  · rintro ⟨earlier, middle, before, after, first, further, rfl⟩
    obtain ⟨later, last', between, final, others, gave, rfl⟩ := Run.bind_eq_ok.1 further
    cases gave
    exact ⟨earlier, later, middle, before, between, first, others, by cases later <;> rfl, by simp⟩
  · rintro ⟨earlier, later, middle, before, after, first, others, rfl, rfl⟩
    refine ⟨earlier, middle, before, after, first, ?_, rfl⟩
    refine Run.bind_eq_ok.2 ⟨later, last, after, [], others, ?_, by simp⟩
    cases later <;> rfl

/-- A fault among statements is that of the first, or that of the others after it. -/
theorem runAll_cons_eq_error {statement : Statement} {rest : List Statement} {contexts last : ContextForest}
    {fault : Fault}
    (failed : Statement.runAll around context (statement :: rest) contexts = (last, .error fault)) :
    statement.run around context contexts = (last, .error fault) ∨
      ∃ earlier middle before, statement.run around context contexts = (middle, .ok (earlier, before)) ∧
        Statement.runAll around context rest middle = (last, .error fault) := by
  change (statement.run around context >>= fun earlier => Statement.runAll around context rest >>=
    fun later => Run.give (later <|> earlier)) contexts = _ at failed
  rcases Run.bind_eq_error.1 failed with first | ⟨earlier, middle, before, gave, further⟩
  · exact .inl first
  · rcases Run.bind_eq_error.1 further with others | ⟨_, _, _, -, impossible⟩
    · exact .inr ⟨earlier, middle, before, gave, others⟩
    · cases impossible

/-- A run does nothing to the contexts but bind symbols in its own. -/
theorem runAll_extends {statements : List Statement} {contexts last : ContextForest} {result : Option Value}
    {diagnostics : List Diagnostic}
    (ran : Statement.runAll around context statements contexts = (last, .ok (result, diagnostics))) :
    ∃ added, last = contexts.extend context added := by
  induction statements generalizing contexts result diagnostics with
  | nil =>
    obtain ⟨rfl, -, -⟩ := runAll_nil_eq_ok.1 ran
    exact ⟨[], (last.extend_nil context).symm⟩
  | cons statement rest ih =>
    obtain ⟨_, _, middle, _, _, first, others, -, -⟩ := runAll_cons_eq_ok.1 ran
    obtain ⟨added, rfl⟩ := ih others
    cases statement with
    | assign symbol expr =>
      obtain ⟨value, -, -, -, rfl, -⟩ := run_assign_eq_ok.1 first
      exact ⟨(symbol, value) :: added, contexts.extend_extend context [(symbol, value)] added⟩
    | result expr =>
      obtain ⟨_, -, rfl, -⟩ := run_result_eq_ok.1 first
      exact ⟨added, rfl⟩

end Statement

/-- The value of a block is its result, or else an object of what its scope declares. -/
theorem Block.run_eq_ok {around : Surroundings} {block : Block} {context : ContextId}
    {contexts last : ContextForest} {value : Value} {diagnostics : List Diagnostic} :
    block.run around context contexts = (last, .ok (value, diagnostics)) ↔
      ∃ result, Statement.runAll around context block.statements contexts = (last, .ok (result, diagnostics)) ∧
        value = result.getD (Block.summary around.scopes context block.scope last) := by
  unfold Block.run
  rw [Run.bind_eq_ok]
  constructor
  · rintro ⟨result, middle, before, after, ran, gave, rfl⟩
    cases result <;> cases gave <;> exact ⟨_, by simpa using ran, rfl⟩
  · rintro ⟨result, ran, rfl⟩
    refine ⟨result, last, diagnostics, [], ran, ?_, by simp⟩
    cases result <;> rfl

/-- A block meets no fault but those of its statements. -/
theorem Block.run_eq_error {around : Surroundings} {block : Block} {context : ContextId}
    {contexts last : ContextForest} {fault : Fault}
    (failed : block.run around context contexts = (last, .error fault)) :
    Statement.runAll around context block.statements contexts = (last, .error fault) := by
  unfold Block.run at failed
  rcases Run.bind_eq_error.1 failed with ran | ⟨result, _, _, -, impossible⟩
  · exact ran
  · cases result <;> cases impossible

theorem Block.run_extends {around : Surroundings} {block : Block} {context : ContextId}
    {contexts last : ContextForest} {value : Value} {diagnostics : List Diagnostic}
    (ran : block.run around context contexts = (last, .ok (value, diagnostics))) :
    ∃ added, last = contexts.extend context added := by
  obtain ⟨_, ranAll, -⟩ := Block.run_eq_ok.1 ran
  exact Statement.runAll_extends ranAll

end Circuitry
