import Circuitry.Proofs.Block.Permutation

/-!
# Blocks as equations

Each assignment of a block reads as an equation between a symbol and an expression. Running a scheduled block
binds every assigned symbol once and nothing else. In the contexts that the run leaves all equations hold: each
expression, evaluated again, gives the value to which its symbol is bound, with the reports that it made in the
run. No fault comes from the bindings themselves.
-/

set_option autoImplicit false

namespace Circuitry

namespace Statement

variable {around : Surroundings} {context : ContextId} {outcomes : Outcomes} {statements : List Statement}

/-! ### Bindings -/

/-- There is a binding for every assignment, in order. -/
theorem names_bound (outcomes : Outcomes) (statements : List Statement) :
    (bound outcomes statements).map Prod.fst = statements.filterMap target? := by
  rw [bound, List.map_filterMap]
  refine List.filterMap_congr fun statement _ => ?_
  cases statement.target? <;> rfl

theorem lookup_bound_of_mem (distinct : (statements.map target?).Nodup) {statement : Statement}
    (member : statement ∈ statements) {symbol : Symbol} (target : statement.target? = some symbol) :
    (bound outcomes statements).lookup symbol = some (outcomes statement).1 := by
  rw [lookup_bound, valueFor, (find?_key_iff distinct).2 ⟨member, target⟩, Option.map_some]

/-! ### Parts of a run -/

theorem Settles.start {contexts : ContextForest} {before rest : List Statement}
    (settles : Settles around context contexts outcomes (before ++ rest)) :
    Settles around context contexts outcomes before := by
  intro earlier statement later split
  exact settles earlier statement (later ++ rest) (by rw [split, List.append_assoc, List.cons_append])

theorem Open.start {contexts : ContextForest} {before rest : List Statement}
    (opens : Open contexts context (before ++ rest)) : Open contexts context before :=
  ⟨opens.unsealed, fun statement member => opens.free statement (List.mem_append_left _ member)⟩

/-- A run in an open context meets no fault but that of an expression, evaluated in the contexts as they are
then. -/
theorem fault_of_runAll {contexts last : ContextForest} {fault : Fault}
    (distinct : (statements.map target?).Nodup) (opens : Open contexts context statements)
    (failed : Statement.runAll around context statements contexts = (last, .error fault)) :
    ∃ statement ∈ statements, statement.expr.eval (around.environment last context) = .error fault := by
  induction statements generalizing contexts with
  | nil => cases failed
  | cons statement rest ih =>
    rcases runAll_cons_eq_error failed with first | ⟨_, middle, before, gave, others⟩
    · refine ⟨statement, List.mem_cons_self, ?_⟩
      cases statement with
      | assign symbol expr =>
        have free := opens.free (.assign symbol expr) List.mem_cons_self symbol rfl
        obtain ⟨rfl, evaluated⟩ := run_assign_eq_error opens.unsealed free first
        exact evaluated
      | result expr =>
        obtain ⟨rfl, evaluated⟩ := run_result_eq_error first
        exact evaluated
    · obtain ⟨value, evaluated⟩ := outcome_of_run gave
      have ended := gave.symm.trans (run_of_outcome (fun _ => (value, before)) opens evaluated)
      obtain ⟨rfl, -⟩ := Prod.mk.inj ended
      obtain ⟨other, member, evaluated'⟩ := ih (List.nodup_cons.1 distinct).2 (opens.tail distinct) others
      exact ⟨other, List.mem_cons_of_mem _ member, evaluated'⟩

end Statement

/-! ### Solutions -/

/-- What the contexts are after a run that solves the equations of a block: all that changed is that every
assigned symbol is bound, once, and the expression of each assignment gives the value to which its symbol is
bound, with the reports that running it made. -/
structure Block.Solves (block : Block) (around : Surroundings) (context : ContextId)
    (contexts last : ContextForest) : Prop where
  once : (block.statements.filterMap Statement.target?).Nodup
  added : ∃ added, last.bindings context = contexts.bindings context ++ added ∧
    added.map Prod.fst = block.statements.filterMap Statement.target?
  unchanged : ∀ other, other ≠ context → last.node? other = contexts.node? other
  equation : ∀ before symbol expr after, block.statements = before ++ .assign symbol expr :: after →
    ∃ middle next earlier reported value diagnostics,
      Statement.runAll around context before contexts = (middle, .ok (earlier, reported)) ∧
      (Statement.assign symbol expr).run around context middle = (next, .ok (none, diagnostics)) ∧
      last.direct? context symbol = some value ∧
      expr.run around context last = (last, .ok (value, diagnostics))

open Statement (Outcomes Settles Open InOrder Steady bound) in
/-- Statements in order, each with its outcome, are solved by what they bind. -/
theorem Block.solves_of_settles {block : Block} {around : Surroundings} {context : ContextId}
    {contexts : ContextForest} {outcomes : Outcomes} (steady : Steady around)
    (distinct : (block.statements.map Statement.target?).Nodup) (inOrder : InOrder block.statements)
    (opens : Open contexts context block.statements)
    (settles : Settles around context contexts outcomes block.statements) :
    block.Solves around context contexts (contexts.extend context (bound outcomes block.statements)) where
  once := by
    rw [List.Nodup, List.pairwise_filterMap]
    refine (List.pairwise_map.1 distinct).imp fun apart symbol target other target' same => apart ?_
    rw [target, target', same]
  added := ⟨_, ContextForest.bindings_extend_self _ _ _ opens.unsealed, Statement.names_bound _ _⟩
  unchanged other apart := by rw [ContextForest.node?_extend, if_neg apart]
  equation before symbol expr after split := by
    have member : Statement.assign symbol expr ∈ block.statements := by simp [split]
    have lookup : (Statement.bound outcomes block.statements).lookup symbol =
        some (outcomes (.assign symbol expr)).1 := Statement.lookup_bound_of_mem distinct member rfl
    have again :=
      (Statement.settles_iff_of_inOrder steady inOrder distinct opens.unsealed).1 settles _ member
    have free := opens.free _ member symbol rfl
    have evaluated := settles before _ after split
    generalize block.statements = statements at *
    subst split
    have distinctBefore : (before.map Statement.target?).Nodup := by
      rw [List.map_append] at distinct
      exact (List.nodup_append.1 distinct).1
    refine ⟨_, _, _, _, _, _, Statement.runAll_of_settles distinctBefore opens.start settles.start,
      Statement.run_of_outcome outcomes (opens.rest distinct) evaluated, ?_,
      Statement.run_expr_eq_ok.2 ⟨rfl, again⟩⟩
    rw [ContextForest.direct?_extend_self _ _ _ opens.unsealed, free, lookup, Option.none_or]

namespace Schedule

variable {statements : List Statement} {scope : ScopeId}

open Statement (Steady Open) in
/-- A scheduled block, run in a context that binds none of its symbols, solves its equations. If a fault ends the
run, it is that of evaluating an expression in the contexts reached by then: to bind a symbol is never one. -/
theorem schedule_solves_equations
    (owned : ∀ statement ∈ (schedule statements scope).1.statements, ∀ symbol,
      statement.target? = some symbol → scope.owns symbol = true)
    {around : Surroundings} (steady : Steady around) {context : ContextId} {contexts : ContextForest}
    (opens : Open contexts context (schedule statements scope).1.statements) :
    (∀ last fault, (schedule statements scope).1.run around context contexts = (last, .error fault) →
      ∃ statement ∈ (schedule statements scope).1.statements,
        statement.expr.run around context last = (last, .error fault)) ∧
    ∀ last value diagnostics,
      (schedule statements scope).1.run around context contexts = (last, .ok (value, diagnostics)) →
      (schedule statements scope).1.Solves around context contexts last := by
  constructor
  · intro last fault failed
    obtain ⟨statement, member, evaluated⟩ :=
      Statement.fault_of_runAll nodup_targets_schedule opens (Block.run_eq_error failed)
    exact ⟨statement, member, congrArg (Prod.mk last) evaluated⟩
  · intro last value diagnostics ran
    obtain ⟨result, ranAll, -⟩ := Block.run_eq_ok.1 ran
    obtain ⟨outcomes, settles⟩ := Statement.settles_of_runAll nodup_targets_schedule opens ranAll
    obtain ⟨rfl, -⟩ :=
      Prod.mk.inj (ranAll.symm.trans (Statement.runAll_of_settles nodup_targets_schedule opens settles))
    exact Block.solves_of_settles steady nodup_targets_schedule (schedule_inOrder owned) opens settles

/-! ### A block of two equations -/

namespace Lamp

def lamp : Symbol := ⟨1, "lamp", ⟨0⟩⟩

/-- The lamp is written down before the switch on which it depends. -/
def written : List Statement :=
  [.assign lamp (.unary .not (.symbol Negation.switch (.atStart 0)) (.atStart 0)),
    .assign Negation.switch (.literal (.ofBool true) (.atStart 0))]

/-- The switch is bound first, and the lamp is its opposite. -/
def solved : ContextForest :=
  Negation.contexts.extend ⟨0⟩ [(Negation.switch, .ofBool true), (lamp, .ofBool false)]

theorem symbols_owned : ∀ statement ∈ (schedule written ⟨0⟩).1.statements, ∀ symbol,
    statement.target? = some symbol → (⟨0⟩ : ScopeId).owns symbol = true := by
  intro statement member symbol target
  rw [show (schedule written ⟨0⟩).1.statements = written.reverse from rfl] at member
  simp only [written, List.reverse_cons, List.reverse_nil, List.nil_append, List.cons_append,
    List.mem_cons, List.not_mem_nil, or_false] at member
  rcases member with rfl | rfl <;> cases target <;> rfl

end Lamp

theorem lamp_solved : (schedule Lamp.written ⟨0⟩).1.Solves Negation.surroundings ⟨0⟩ Negation.contexts
    Lamp.solved :=
  (schedule_solves_equations Lamp.symbols_owned (fun _ _ => rfl) ⟨rfl, fun _ _ _ _ => rfl⟩).2 _
    (Block.summary Negation.surroundings.scopes ⟨0⟩ ⟨0⟩ Lamp.solved) [] rfl

end Schedule

end Circuitry
