import Circuitry.Proofs.Block.Run
import Circuitry.Proofs.Expr.Reference
import Circuitry.Proofs.Kernel.Matching
import Mathlib.Logic.Function.Basic
import Mathlib.Data.List.Nodup
import Mathlib.Data.List.Perm.Basic

/-!
# The outcomes of statements

A run of statements with different targets is told by what each of them comes to: from these outcomes follow the
bindings, the result and the diagnostics. If every statement comes after those whose symbols it refers to, then
each could as well be evaluated in the end, when everything is bound. So the order among them does not matter.
-/

set_option autoImplicit false

namespace Circuitry.Statement

variable {around : Surroundings} {context : ContextId}

/-! ### Bindings and results by outcome -/

/-- A value and diagnostics for each statement. -/
abbrev Outcomes := Statement → Value × List Diagnostic

variable (outcomes : Outcomes) (statements : List Statement)

/-- The bindings that statements make. -/
def bound : List (Symbol × Value) :=
  statements.filterMap fun statement => statement.target?.map fun symbol => (symbol, (outcomes statement).1)

/-- The value of the statement with a target. -/
def valueFor (target : Option Symbol) : Option Value :=
  (statements.find? fun statement => statement.target? = target).map fun statement => (outcomes statement).1

theorem lookup_bound (symbol : Symbol) :
    (bound outcomes statements).lookup symbol = valueFor outcomes statements (some symbol) := by
  induction statements with
  | nil => rfl
  | cons statement rest ih =>
    cases target : statement.target? with
    | none =>
      have skipped : bound outcomes (statement :: rest) = bound outcomes rest := by simp [bound, target]
      rw [skipped, ih]
      simp [valueFor, target]
    | some other =>
      have added : bound outcomes (statement :: rest) =
          (other, (outcomes statement).1) :: bound outcomes rest := by simp [bound, target]
      rw [added, List.lookup_cons, ih]
      by_cases same : symbol = other
      · simp [valueFor, target, same]
      · have apart : other ≠ symbol := fun same' => same same'.symm
        rw [beq_false_of_ne same]
        simp [valueFor, target, apart]

variable {outcomes} {statements}

/-- Only the outcomes of the statements themselves matter. -/
theorem bound_congr {others : Outcomes}
    (agree : ∀ statement ∈ statements, outcomes statement = others statement) :
    bound outcomes statements = bound others statements :=
  List.filterMap_congr fun statement member => by rw [agree statement member]

theorem valueFor_perm {others : List Statement} (perm : statements.Perm others)
    (distinct : (statements.map target?).Nodup) (target : Option Symbol) :
    valueFor outcomes others target = valueFor outcomes statements target := by
  unfold valueFor
  rw [find?_key_perm perm distinct]

/-! ### Runs by outcome -/

/-- Each statement of a run comes to its outcome where those before it are bound. -/
def Settles (around : Surroundings) (context : ContextId) (contexts : ContextForest) (outcomes : Outcomes)
    (statements : List Statement) : Prop :=
  ∀ before statement after, statements = before ++ statement :: after →
    statement.expr.eval (around.environment (contexts.extend context (bound outcomes before)) context) =
      .ok (outcomes statement)

theorem settles_congr {contexts : ContextForest} {others : Outcomes}
    (agree : ∀ statement ∈ statements, outcomes statement = others statement) :
    Settles around context contexts outcomes statements ↔ Settles around context contexts others statements := by
  refine forall_congr' fun before => forall_congr' fun statement => forall_congr' fun after =>
    forall_congr' fun split => ?_
  have same : bound outcomes before = bound others before :=
    bound_congr fun other member => agree other (by simp [split, member])
  rw [same, agree statement (by simp [split])]

theorem extend_bound_cons (contexts : ContextForest) (statement : Statement) (rest : List Statement) :
    (contexts.extend context (bound outcomes [statement])).extend context (bound outcomes rest) =
      contexts.extend context (bound outcomes (statement :: rest)) := by
  rw [ContextForest.extend_extend, bound, bound, bound, ← List.filterMap_append, List.singleton_append]

/-- The first statement, and then the others where it is bound. -/
theorem settles_cons {contexts : ContextForest} {statement : Statement} :
    Settles around context contexts outcomes (statement :: statements) ↔
      statement.expr.eval (around.environment contexts context) = .ok (outcomes statement) ∧
        Settles around context (contexts.extend context (bound outcomes [statement])) outcomes statements := by
  constructor
  · intro settles
    refine ⟨?_, fun before other after split => ?_⟩
    · have first := settles [] statement statements rfl
      rwa [bound, List.filterMap_nil, ContextForest.extend_nil] at first
    · rw [extend_bound_cons]
      exact settles (statement :: before) other after (by rw [split, List.cons_append])
  · rintro ⟨first, others⟩ before other after split
    cases before with
    | nil =>
      obtain ⟨rfl, rfl⟩ := List.cons.inj split
      rwa [bound, List.filterMap_nil, ContextForest.extend_nil]
    | cons head rest =>
      obtain ⟨rfl, splitRest⟩ := List.cons.inj split
      rw [← extend_bound_cons]
      exact others rest other after splitRest

/-- A context takes bindings, and has none for the targets of the statements. -/
structure Open (contexts : ContextForest) (context : ContextId) (statements : List Statement) : Prop where
  unsealed : contexts.isSealed context = false
  free : ∀ statement ∈ statements, ∀ symbol, statement.target? = some symbol →
    contexts.direct? context symbol = none

/-- After some statements the context is still open for the others, which have other targets. -/
theorem Open.rest {contexts : ContextForest} {before : List Statement}
    (opens : Open contexts context (before ++ statements))
    (distinct : ((before ++ statements).map target?).Nodup) :
    Open (contexts.extend context (bound outcomes before)) context statements := by
  refine ⟨?_, fun statement member symbol target => ?_⟩
  · rw [ContextForest.isSealed_extend, opens.unsealed]
  · have absent : (before.find? fun other => other.target? = some symbol) = none := by
      refine List.find?_eq_none.2 fun other earlier found => ?_
      rw [List.map_append] at distinct
      refine (List.nodup_append.1 distinct).2.2 _ (List.mem_map_of_mem earlier) _
        (List.mem_map_of_mem member) ?_
      rw [of_decide_eq_true found, target]
    rw [ContextForest.direct?_extend_self _ _ _ opens.unsealed,
      opens.free statement (List.mem_append_right _ member) symbol target, lookup_bound, Option.none_or]
    simp [valueFor, absent]

theorem Open.tail {contexts : ContextForest} {statement : Statement}
    (opens : Open contexts context (statement :: statements))
    (distinct : ((statement :: statements).map target?).Nodup) :
    Open (contexts.extend context (bound outcomes [statement])) context statements :=
  Open.rest (show Open contexts context ([statement] ++ statements) from opens) distinct

variable (outcomes) in
/-- A statement runs as its expression evaluates. -/
theorem run_of_outcome {contexts : ContextForest} {statement : Statement}
    (opens : Open contexts context (statement :: statements))
    (evaluated : statement.expr.eval (around.environment contexts context) = .ok (outcomes statement)) :
    statement.run around context contexts =
      (contexts.extend context (bound outcomes [statement]),
        .ok (valueFor outcomes [statement] none, (outcomes statement).2)) := by
  cases statement with
  | assign symbol expr =>
    exact run_assign_eq_ok.2 ⟨(outcomes (.assign symbol expr)).1, evaluated, opens.unsealed,
      opens.free (.assign symbol expr) (by simp) symbol rfl, rfl, rfl⟩
  | result expr =>
    exact run_result_eq_ok.2 ⟨(outcomes (.result expr)).1, evaluated, contexts.extend_nil context, rfl⟩

theorem outcome_of_run {contexts last : ContextForest} {statement : Statement} {result : Option Value}
    {diagnostics : List Diagnostic}
    (ran : statement.run around context contexts = (last, .ok (result, diagnostics))) :
    ∃ value, statement.expr.eval (around.environment contexts context) = .ok (value, diagnostics) := by
  cases statement with
  | assign symbol expr =>
    obtain ⟨value, evaluated, -⟩ := run_assign_eq_ok.1 ran
    exact ⟨value, evaluated⟩
  | result expr =>
    obtain ⟨value, evaluated, -⟩ := run_result_eq_ok.1 ran
    exact ⟨value, evaluated⟩

/-- Of statements with different targets at most one is a result, so it does not matter which is the last. -/
theorem valueFor_cons {statement : Statement} (distinct : ((statement :: statements).map target?).Nodup)
    (target : Option Symbol) :
    valueFor outcomes (statement :: statements) target =
      (valueFor outcomes statements target).or (valueFor outcomes [statement] target) := by
  by_cases same : statement.target? = target
  · have others : (statements.find? fun other => other.target? = target) = none := by
      refine List.find?_eq_none.2 fun other member found => (List.nodup_cons.1 distinct).1 ?_
      rw [same, ← of_decide_eq_true found]
      exact List.mem_map_of_mem member
    simp [valueFor, same, others]
  · simp [valueFor, same]

/-- Where each statement comes to its outcome, a run ends with the bindings, the result and the diagnostics that
follow from the outcomes. -/
theorem runAll_of_settles {contexts : ContextForest} (distinct : (statements.map target?).Nodup)
    (opens : Open contexts context statements) (settles : Settles around context contexts outcomes statements) :
    Statement.runAll around context statements contexts =
      (contexts.extend context (bound outcomes statements),
        .ok (valueFor outcomes statements none,
          statements.flatMap fun statement => (outcomes statement).2)) := by
  induction statements generalizing contexts with
  | nil => exact runAll_nil_eq_ok.2 ⟨contexts.extend_nil context, rfl, rfl⟩
  | cons statement rest ih =>
    obtain ⟨first, others⟩ := settles_cons.1 settles
    have remaining := ih (List.nodup_cons.1 distinct).2 (opens.tail distinct) others
    rw [extend_bound_cons] at remaining
    exact runAll_cons_eq_ok.2 ⟨_, _, _, _, _, run_of_outcome outcomes opens first, remaining,
      valueFor_cons distinct none, rfl⟩

open scoped Classical in
/-- A run that ends gives each statement an outcome. -/
theorem settles_of_runAll {contexts last : ContextForest} {result : Option Value}
    {diagnostics : List Diagnostic} (distinct : (statements.map target?).Nodup)
    (opens : Open contexts context statements)
    (ran : Statement.runAll around context statements contexts = (last, .ok (result, diagnostics))) :
    ∃ outcomes, Settles around context contexts outcomes statements := by
  induction statements generalizing contexts result diagnostics with
  | nil => exact ⟨fun _ => (.placeholder, []), fun before _ after split => by simp at split⟩
  | cons statement rest ih =>
    obtain ⟨_, _, middle, before, _, first, remaining, -, -⟩ := runAll_cons_eq_ok.1 ran
    obtain ⟨value, evaluated⟩ := outcome_of_run first
    have ended := first.symm.trans (run_of_outcome (fun _ => (value, before)) opens evaluated)
    obtain ⟨rfl, -⟩ := Prod.mk.inj ended
    obtain ⟨outcomes, settles⟩ := ih (List.nodup_cons.1 distinct).2 (opens.tail distinct) remaining
    have others : ∀ other ∈ rest,
        outcomes other = Function.update outcomes statement (value, before) other := by
      intro other member
      have apart : other ≠ statement := by
        rintro rfl
        exact (List.nodup_cons.1 distinct).1 (List.mem_map_of_mem member)
      rw [Function.update_of_ne apart]
    have itself : Function.update outcomes statement (value, before) statement = (value, before) :=
      Function.update_self ..
    have first : bound (fun _ => (value, before)) [statement] =
        bound (Function.update outcomes statement (value, before)) [statement] :=
      bound_congr fun other member => by rw [List.mem_singleton.1 member, itself]
    rw [first] at settles
    have settled := (settles_congr others).1 settles
    exact ⟨_, settles_cons.2 ⟨evaluated.trans (congrArg Except.ok itself.symm), settled⟩⟩

/-! ### Statements in order -/

/-- Every statement comes after those that bind what it refers to. -/
def InOrder (statements : List Statement) : Prop :=
  ∀ before statement after, statements = before ++ statement :: after →
    ∀ other ∈ statements, ∀ symbol ∈ statement.expr.symbols, other.target? = some symbol → other ∈ before

/-- Callbacks depend on their arguments alone, so the host is the same in all contexts. -/
def Steady (around : Surroundings) : Prop := ∀ contexts later, around.hostIn contexts = around.hostIn later

/-- What is bound matters to an evaluation only through the values of symbols. -/
theorem environment_agreesOn (steady : Steady around) {contexts : ContextForest}
    (unsealed : contexts.isSealed context = false) {symbols : List Symbol} {added added' : List (Symbol × Value)}
    (agree : ∀ symbol ∈ symbols, added.lookup symbol = added'.lookup symbol) :
    (around.environment (contexts.extend context added) context).AgreesOn symbols
      (around.environment (contexts.extend context added') context) :=
  ⟨steady _ _, rfl, fun symbol member =>
    ContextForest.value?_extend_congr _ _ _ unsealed (agree symbol member)⟩

/-- What is bound before a statement in order is all that it refers to. -/
theorem lookup_bound_of_inOrder (inOrder : InOrder statements) (distinct : (statements.map target?).Nodup)
    {before after : List Statement} {statement : Statement} (split : statements = before ++ statement :: after) :
    ∀ symbol ∈ statement.expr.symbols,
      (bound outcomes before).lookup symbol = (bound outcomes statements).lookup symbol := by
  intro symbol refers
  have others : ((statement :: after).find? fun other => other.target? = some symbol) = none := by
    refine List.find?_eq_none.2 fun other member found => ?_
    have target : other.target? = some symbol := of_decide_eq_true found
    have earlier := inOrder before statement after split other (by simp [split, member]) symbol refers target
    rw [split, List.map_append] at distinct
    exact (List.nodup_append.1 distinct).2.2 _ (List.mem_map_of_mem earlier) _ (List.mem_map_of_mem member) rfl
  rw [lookup_bound, lookup_bound, split]
  simp only [valueFor, List.find?_append, others, Option.or_none]

/-- Statements in order come to their outcomes just if each of them does when everything is bound. -/
theorem settles_iff_of_inOrder (steady : Steady around) (inOrder : InOrder statements)
    (distinct : (statements.map target?).Nodup) {contexts : ContextForest}
    (unsealed : contexts.isSealed context = false) :
    Settles around context contexts outcomes statements ↔
      ∀ statement ∈ statements,
        statement.expr.eval (around.environment (contexts.extend context (bound outcomes statements)) context) =
          .ok (outcomes statement) := by
  have same : ∀ before statement after, statements = before ++ statement :: after →
      statement.expr.eval (around.environment (contexts.extend context (bound outcomes before)) context) =
        statement.expr.eval
          (around.environment (contexts.extend context (bound outcomes statements)) context) :=
    fun before statement after split => statement.expr.eval_congr
      (environment_agreesOn steady unsealed (lookup_bound_of_inOrder inOrder distinct split))
  constructor
  · intro settles statement member
    obtain ⟨before, after, split⟩ := List.append_of_mem member
    rw [← same before statement after split]
    exact settles before statement after split
  · intro evaluated before statement after split
    rw [same before statement after split]
    exact evaluated statement (by simp [split])

section Permutation

variable {others : List Statement} {contexts : ContextForest}

/-- In another order that respects references, statements come to the same outcomes. -/
theorem Settles.perm (settles : Settles around context contexts outcomes statements) (steady : Steady around)
    (perm : statements.Perm others) (distinct : (statements.map target?).Nodup) (inOrder : InOrder statements)
    (inOrder' : InOrder others) (unsealed : contexts.isSealed context = false) :
    Settles around context contexts outcomes others := by
  have distinct' : (others.map target?).Nodup := (perm.map _).nodup_iff.1 distinct
  rw [settles_iff_of_inOrder steady inOrder distinct unsealed] at settles
  refine (settles_iff_of_inOrder steady inOrder' distinct' unsealed).2 fun statement member => ?_
  have agrees : (around.environment (contexts.extend context (bound outcomes others)) context).AgreesOn
      statement.expr.symbols
      (around.environment (contexts.extend context (bound outcomes statements)) context) :=
    environment_agreesOn steady unsealed fun symbol _ => by
      rw [lookup_bound, lookup_bound, valueFor_perm perm distinct]
  rw [statement.expr.eval_congr agrees]
  exact settles statement (perm.mem_iff.2 member)

/-- Statements in another order that respects references give the same result, bind the same values, and report
the same, in another order. -/
theorem runAll_perm (steady : Steady around) (perm : statements.Perm others)
    (distinct : (statements.map target?).Nodup) (inOrder : InOrder statements) (inOrder' : InOrder others)
    (opens : Open contexts context statements) {last : ContextForest} {result : Option Value}
    {diagnostics : List Diagnostic}
    (ran : Statement.runAll around context statements contexts = (last, .ok (result, diagnostics))) :
    ∃ last' diagnostics',
      Statement.runAll around context others contexts = (last', .ok (result, diagnostics')) ∧
      diagnostics'.Perm diagnostics ∧
      (∀ other symbol, last'.direct? other symbol = last.direct? other symbol) ∧
      ∀ other symbol, last'.value? other symbol = last.value? other symbol := by
  obtain ⟨outcomes, settles⟩ := settles_of_runAll distinct opens ran
  have distinct' : (others.map target?).Nodup := (perm.map _).nodup_iff.1 distinct
  have opens' : Open contexts context others :=
    ⟨opens.unsealed, fun statement member => opens.free statement (perm.mem_iff.2 member)⟩
  have settles' := settles.perm steady perm distinct inOrder inOrder' opens.unsealed
  obtain ⟨rfl, gave⟩ := Prod.mk.inj (ran.symm.trans (runAll_of_settles distinct opens settles))
  cases gave
  have ran' := runAll_of_settles distinct' opens' settles'
  rw [valueFor_perm perm distinct] at ran'
  have same : ∀ symbol, (bound outcomes others).lookup symbol = (bound outcomes statements).lookup symbol :=
    fun symbol => by rw [lookup_bound, lookup_bound, valueFor_perm perm distinct]
  exact ⟨_, _, ran', (perm.flatMap_right _).symm,
    fun other symbol => ContextForest.direct?_extend_congr _ _ _ opens.unsealed (same symbol),
    fun other symbol => ContextForest.value?_extend_congr _ _ _ opens.unsealed (same symbol)⟩

end Permutation

end Circuitry.Statement
