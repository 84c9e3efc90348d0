import Circuitry.Proofs.Block.Evaluation
import Circuitry.Proofs.Expr.Occurrence
import Circuitry.Proofs.Expr.Parts
import Circuitry.Proofs.Expr.Silence

/-!
# Reports of an evaluation

No failure is silent: where nothing is a placeholder to begin with, an expression comes to a placeholder only with a
report that accounts for it. An evaluation reads just the symbols that its expression refers to: other bindings make
no difference to it, and each occurrence of a symbol that is not bound is reported once. And no report masks another:
whatever goes wrong around a subexpression, it reports what it reports on its own.
-/

set_option autoImplicit false

namespace Circuitry

variable {registry : Registry} {around : Surroundings} {contexts later : ContextForest}
  {context inner : ContextId} {expr : Expr}

/-! ### No silent failures -/

/-- In a context of well-formed bindings and a sound host, no placeholder stands in a binding or in an answer of the
host, nor is one the default of a parameter. -/
structure Surroundings.Intact (registry : Registry) (around : Surroundings) (contexts : ContextForest)
    (context : ContextId) : Prop where
  sound : (around.hostIn contexts).Sound registry
  whole : (around.hostIn contexts).Whole registry
  sees : contexts.Sees registry context
  bound : ∀ symbol value, contexts.value? context symbol = some value → value.whole = true

theorem Surroundings.Intact.environment (intact : around.Intact registry contexts context) :
    (around.environment contexts context).Intact registry :=
  ⟨environment_sound intact.sound intact.sees, intact.whole, intact.bound⟩

/-- An expression without placeholders comes to a placeholder only if something is reported that accounts for it: an
error, or the warning that the type of an element is not determined. -/
theorem Expr.run_accounts (intact : around.Intact registry contexts context)
    (literals : ∀ value ∈ expr.literals, value.wellFormed registry = true ∧ value.whole = true) :
    ∃ value diagnostics, expr.run around context contexts = (contexts, .ok (value, diagnostics)) ∧
      (value = .placeholder → ∃ diagnostic ∈ diagnostics,
        diagnostic.isError = true ∨ diagnostic.kind = .indeterminateType ∧ diagnostic.severity = .warning) := by
  have environment := intact.environment
  obtain ⟨value, diagnostics, evaluated, -⟩ :=
    expr.eval_gives environment.sound fun value member => (literals value member).1
  refine ⟨value, diagnostics, Statement.run_expr_eq_ok.2 ⟨rfl, evaluated⟩, fun missing => ?_⟩
  by_contra silent
  have vouches := expr.eval_vouches environment fun value member => ⟨(literals value member).1, (literals value member).2⟩
  have given : value.Intact registry :=
    vouches value diagnostics evaluated fun diagnostic member accounts => silent ⟨diagnostic, member, accounts⟩
  simpa [missing] using given.whole

namespace Supply

theorem bound_intact {voltage : Value} (sound : (rail voltage).wellFormed .ofPredicates = true)
    (whole : (rail voltage).whole = true) : surroundings.Intact .ofPredicates (bound voltage) ⟨0⟩ where
  sound := Host.affirming_sound
  whole := Host.affirming_whole
  sees := bound_sees sound
  bound symbol value found := by
    rw [value?_bound] at found
    split at found
    · cases found
      exact whole
    · cases found

/-- The label less a drop, which only a number can have. -/
def labelAfterDrop : Expr :=
  .binary (.arithmetic .sub) (.access (.symbol supply (.atStart 0)) "label" (.atStart 0))
    (.literal (.ofQuantity ⟨1, volt⟩) (.atStart 0)) (.atStart 0)

/-- Nothing can be subtracted from a label, and a report says so. -/
theorem labelAfterDrop_accounts :
    ∃ diagnostics,
      labelAfterDrop.run surroundings ⟨0⟩ (bound (.unknown (.number .voltage))) =
        (bound (.unknown (.number .voltage)), .ok (.placeholder, diagnostics)) ∧
      ∃ diagnostic ∈ diagnostics,
        diagnostic.isError = true ∨ diagnostic.kind = .indeterminateType ∧ diagnostic.severity = .warning := by
  have intact : surroundings.Intact .ofPredicates (bound (.unknown (.number .voltage))) ⟨0⟩ :=
    bound_intact rfl rfl
  have literals : ∀ value ∈ labelAfterDrop.literals,
      value.wellFormed .ofPredicates = true ∧ value.whole = true := by
    simp only [labelAfterDrop, Expr.literals, List.nil_append, List.forall_mem_singleton]
    exact ⟨rfl, rfl⟩
  obtain ⟨value, diagnostics, ran, accounts⟩ := Expr.run_accounts intact literals
  obtain ⟨reported, missing⟩ : ∃ reported,
      labelAfterDrop.run surroundings ⟨0⟩ (bound (.unknown (.number .voltage))) =
        (bound (.unknown (.number .voltage)), .ok (.placeholder, reported)) := ⟨_, rfl⟩
  cases ran.symm.trans missing
  exact ⟨diagnostics, ran, accounts rfl⟩

end Supply

/-! ### What an evaluation reads -/

/-- Where the symbols that an expression refers to have the same values, and callbacks depend on their arguments
only, an evaluation comes to the same result. Each occurrence of a symbol that is not bound is reported, once and in
order, and no other undefined symbol is. Sound hosts and well-formed values let it come to an end without a fault. -/
theorem Expr.run_reads (hosts : around.hostIn contexts = around.hostIn later)
    (lookups : ∀ symbol ∈ expr.symbols, contexts.value? context symbol = later.value? inner symbol) :
    ∃ result, expr.run around context contexts = (contexts, result) ∧
      expr.run around inner later = (later, result) ∧
      expr.occurrences.map Prod.fst = expr.symbols ∧
      (∀ value diagnostics, result = .ok (value, diagnostics) →
        diagnostics.filter (fun diagnostic => diagnostic.kind = .undefinedSymbol) =
          (expr.occurrences.filter fun occurrence => (contexts.value? context occurrence.1).isNone).map
            undefinedReport) ∧
      ∀ registry, (around.hostIn contexts).Sound registry → contexts.Sees registry context →
        (∀ value ∈ expr.literals, value.wellFormed registry = true) →
        ∃ value diagnostics, result = .ok (value, diagnostics) := by
  have same : expr.eval (around.environment contexts context) = expr.eval (around.environment later inner) :=
    expr.eval_congr ⟨hosts, rfl, lookups⟩
  refine ⟨expr.eval (around.environment contexts context), rfl, by rw [same]; rfl, expr.map_occurrences, ?_, ?_⟩
  · exact fun value diagnostics evaluated =>
      expr.eval_undefined (around.environment contexts context) value diagnostics evaluated
  · intro registry sound sees literals
    obtain ⟨value, diagnostics, evaluated, -⟩ :=
      expr.eval_gives (Surroundings.environment_sound sound sees) literals
    exact ⟨value, diagnostics, evaluated⟩

namespace Supply

def limit : Symbol := ⟨1, "limit", ⟨0⟩⟩

def spare : Symbol := ⟨2, "spare", ⟨0⟩⟩

/-- Whether the voltage is above a limit. -/
def aboveLimit : Expr :=
  .binary (.order .greater) (.access (.symbol supply (.atStart 0)) "voltage" (.atStart 0))
    (.symbol limit (.atStart 0)) (.atStart 0)

/-- The supply along with a spare part. -/
def withSpare (voltage : Value) : ContextForest := .sealedRoot [(spare, .ofBool true), (supply, rail voltage)]

/-- A spare part makes no difference to the comparison with a limit, and the limit is reported once, as it is bound
neither with nor without one. -/
theorem aboveLimit_reads :
    ∃ value diagnostics,
      aboveLimit.run surroundings ⟨0⟩ (bound (.unknown (.number .voltage))) =
        (bound (.unknown (.number .voltage)), .ok (value, diagnostics)) ∧
      aboveLimit.run surroundings ⟨0⟩ (withSpare (.unknown (.number .voltage))) =
        (withSpare (.unknown (.number .voltage)), .ok (value, diagnostics)) ∧
      diagnostics.filter (fun diagnostic => diagnostic.kind = .undefinedSymbol) =
        [undefinedReport (limit, .atStart 0)] := by
  have lookups : ∀ symbol ∈ aboveLimit.symbols,
      (bound (.unknown (.number .voltage))).value? ⟨0⟩ symbol =
        (withSpare (.unknown (.number .voltage))).value? ⟨0⟩ symbol := by
    simp only [aboveLimit, Expr.symbols, List.cons_append, List.nil_append, List.forall_mem_cons]
    exact ⟨rfl, rfl, nofun⟩
  have hosts : surroundings.hostIn (bound (.unknown (.number .voltage))) =
      surroundings.hostIn (withSpare (.unknown (.number .voltage))) := rfl
  obtain ⟨result, ran, ran', -, reports, returns⟩ := Expr.run_reads hosts lookups
  obtain ⟨value, diagnostics, rfl⟩ := returns .ofPredicates Host.affirming_sound (bound_sees rfl) nofun
  exact ⟨value, diagnostics, ran, ran', reports value diagnostics rfl⟩

end Supply

/-! ### What subexpressions report -/

/-- Among the diagnostics of an expression each subexpression has a block, and blocks stand in the order of
evaluation. -/
structure Expr.Arranged (evaluate : Expr → Reporting Value) (whole : Expr) (diagnostics : List Diagnostic)
    (offset : List Nat → Nat) : Prop where
  /-- A subexpression has a value of its own, and what it reports stands in one piece at its offset. -/
  block : ∀ position part, whole.subexpr? position = some part →
    ∃ value block before after, evaluate part = .ok (value, block) ∧ diagnostics = before ++ block ++ after ∧
      before.length = offset position
  /-- Of two subexpressions, neither inside the other, the block of the earlier one ends before that of the later one
  begins. -/
  order : ∀ position later part other, whole.subexpr? position = some part → whole.subexpr? later = some other →
    position < later → ¬position <+: later →
    ∀ value block, evaluate part = .ok (value, block) → offset position + block.length ≤ offset later

/-- Whatever an evaluation reports, it reports for each subexpression what that reports when it is evaluated alone, and
in the order of evaluation. Sound hosts and well-formed values let it come to an end without a fault. -/
theorem Expr.run_arranged :
    ∃ result, expr.run around context contexts = (contexts, result) ∧
      (∀ value diagnostics, result = .ok (value, diagnostics) → ∃ offset,
        expr.Arranged (fun part => (part.run around context contexts).2) diagnostics offset) ∧
      ∀ registry, (around.hostIn contexts).Sound registry → contexts.Sees registry context →
        (∀ value ∈ expr.literals, value.wellFormed registry = true) →
        ∃ value diagnostics, result = .ok (value, diagnostics) := by
  refine ⟨expr.eval (around.environment contexts context), rfl, fun value diagnostics evaluated => ?_, ?_⟩
  · obtain ⟨returns, reported⟩ := Expr.returns_of_ok evaluated
    refine ⟨expr.offset (around.environment contexts context), fun position part found => ?_, ?_⟩
    · obtain ⟨⟨partValue, evaluatedPart⟩, before, after, whole, length⟩ := returns.block found
      exact ⟨partValue, _, before, after, evaluatedPart, reported ▸ whole, length⟩
    · intro position later part other found found' first outside partValue block evaluatedPart
      obtain ⟨-, rfl⟩ := Expr.returns_of_ok evaluatedPart
      exact returns.order found found' first outside
  · intro registry sound sees literals
    obtain ⟨value, diagnostics, evaluated, -⟩ :=
      expr.eval_gives (Surroundings.environment_sound sound sees) literals
    exact ⟨value, diagnostics, evaluated⟩

namespace Supply

/-- Neither can a voltage be negated as a truth value, nor can it be divided by zero. -/
def twoMistakes : Expr :=
  .binary (.logic .and) (.unary .not (.literal (.ofQuantity ⟨1, volt⟩) (.atStart 0)) (.atStart 0))
    (.binary (.arithmetic .div) (.literal (.ofQuantity ⟨1, volt⟩) (.atStart 0))
      (.literal (.ofQuantity ⟨0, volt⟩) (.atStart 0)) (.atStart 0)) (.atStart 0)

/-- Both mistakes are reported, the one on the left first. -/
theorem twoMistakes_arranged :
    ∃ value diagnostics offset,
      twoMistakes.run surroundings ⟨0⟩ (bound .placeholder) = (bound .placeholder, .ok (value, diagnostics)) ∧
      twoMistakes.Arranged (fun part => (part.run surroundings ⟨0⟩ (bound .placeholder)).2) diagnostics offset ∧
      diagnostics.map Diagnostic.kind = [.invalidOperands, .divisionByZero] := by
  obtain ⟨result, ran, arranged, -⟩ := @Expr.run_arranged surroundings (bound .placeholder) ⟨0⟩ twoMistakes
  obtain ⟨value, diagnostics, gives, kinds⟩ : ∃ value diagnostics,
      twoMistakes.run surroundings ⟨0⟩ (bound .placeholder) = (bound .placeholder, .ok (value, diagnostics)) ∧
        diagnostics.map Diagnostic.kind = [.invalidOperands, .divisionByZero] := ⟨_, _, rfl, rfl⟩
  cases ran.symm.trans gives
  obtain ⟨offset, arranged⟩ := arranged value diagnostics rfl
  exact ⟨value, diagnostics, offset, gives, arranged, kinds⟩

end Supply

end Circuitry
