import Circuitry.Proofs.Block.Run
import Circuitry.Proofs.Expr.Prediction
import Circuitry.Proofs.Kernel.Object

/-!
# What the run of a block foretells of later ones

A block is run twice, each time in a fresh context inside the same one. If the bindings made before the run of
the first foretell those of the second, then so do all that the block adds, and its value. A step lemma says so
of one statement; the induction over the statements carries the bindings along.
-/

set_option autoImplicit false

namespace Circuitry

variable {registry : Registry} {lenient : Bool}

/-! ### Bindings -/

/-- Bindings of the same symbols in the same order, of which the first foretell the second. -/
abbrev BindingsForecast (registry : Registry) (lenient : Bool) :
    List (Symbol × Value) → List (Symbol × Value) → Prop :=
  List.Forall₂ fun binding other =>
    binding.1 = other.1 ∧ binding.2.Forecast registry lenient other.2

theorem BindingsForecast.add {bindings others : List (Symbol × Value)}
    (pairs : BindingsForecast registry lenient bindings others) (symbol : Symbol) {value other : Value}
    (forecast : value.Forecast registry lenient other) :
    BindingsForecast registry lenient (bindings ++ [(symbol, value)]) (others ++ [(symbol, other)]) :=
  List.rel_append pairs (.cons ⟨rfl, forecast⟩ .nil)

theorem lookup_forecast {bindings others : List (Symbol × Value)}
    (pairs : BindingsForecast registry lenient bindings others) (symbol : Symbol) :
    Option.Rel (Value.Forecast registry lenient) (bindings.lookup symbol) (others.lookup symbol) := by
  induction pairs with
  | nil => exact .none
  | @cons binding other _ _ head _ ih =>
    obtain ⟨bound, value⟩ := binding
    obtain ⟨bound', value'⟩ := other
    obtain ⟨rfl, forecast⟩ := head
    simp only [List.lookup_cons]
    split
    · exact .some forecast
    · exact ih

/-- What is assumed of the host, in every forest that keeps the contexts of a given one: it is sound and honest,
and says no less where more is known. -/
structure Surroundings.Trusted (registry : Registry) (around : Surroundings) (forest : ContextForest) :
    Prop where
  sound : ∀ later, forest.Keeps later → (around.hostIn later).Sound registry
  honest : ∀ later, forest.Keeps later → (around.hostIn later).Honest registry
  monotone : ∀ later further, forest.Keeps later → forest.Keeps further →
    (around.hostIn later).RefinedBy registry (around.hostIn further)

/-- In every forest that keeps the contexts of a given one, each attribute with a type has a value. -/
def Surroundings.Complete (registry : Registry) (around : Surroundings) (forest : ContextForest) : Prop :=
  ∀ later, forest.Keeps later → (around.hostIn later).Complete registry

/-- A host that does not depend on the contexts need only keep its promises once. -/
theorem Surroundings.Trusted.of_constant {host : Host} (sound : host.Sound registry)
    (honest : host.Honest registry) (monotone : host.RefinedBy registry host) (scopes : ScopeForest)
    (settings : Settings) (forest : ContextForest) :
    (⟨scopes, fun _ => host, settings⟩ : Surroundings).Trusted registry forest :=
  ⟨fun _ _ => sound, fun _ _ => honest, fun _ _ _ _ => monotone⟩

/-- Everything that is seen from a context is well-formed. -/
def ContextForest.Sees (registry : Registry) (forest : ContextForest) (context : ContextId) : Prop :=
  ∀ symbol value, forest.value? context symbol = some value → value.wellFormed registry = true

theorem ContextForest.Sees.of_bindings {forest : ContextForest} {context : ContextId}
    (sound : ∀ outer ∈ forest.path context, ∀ binding ∈ forest.bindings outer,
      binding.2.wellFormed registry = true) : forest.Sees registry context := by
  intro symbol value found
  obtain ⟨outer, member, bound⟩ := List.exists_of_findSome?_eq_some found
  obtain ⟨before, after, split, -⟩ := List.lookup_eq_some_iff.1 bound
  exact sound outer member (symbol, value) (by simp [split])

/-! ### One evaluation -/

section Runs

variable {around : Surroundings} {settings : Settings} {forest later : ContextForest} {parent : ContextId}

/-- What is seen in a fresh context foretells what is seen in the other one. -/
theorem value?_forecast (sees : forest.Sees registry parent)
    (persists : forest.Persists later parent) {bindings others : List (Symbol × Value)}
    (pairs : BindingsForecast registry lenient bindings others) (symbol : Symbol) :
    Option.Rel (Value.Forecast registry lenient)
      (((forest.fresh parent).extend forest.child bindings).value? forest.child symbol)
      (((later.fresh parent).extend later.child others).value? later.child symbol) := by
  have pair := lookup_forecast pairs symbol
  rw [ContextForest.value?_fresh, ContextForest.value?_fresh, persists.values]
  generalize bindings.lookup symbol = found at pair
  generalize others.lookup symbol = found' at pair
  cases pair with
  | some forecast => exact .some forecast
  | none =>
    rw [Option.none_or]
    cases outside : forest.value? parent symbol with
    | none => exact .none
    | some value =>
      have sound := sees symbol value outside
      exact .some ⟨sound, sound, .of_refined (.refl sound)⟩

variable (settings) in
/-- Bindings that foretell other ones, in a fresh context each. -/
theorem environment_forecast (trusted : around.Trusted registry forest)
    (complete : lenient = false → around.Complete registry forest) (sees : forest.Sees registry parent)
    (persists : forest.Persists later parent)
    {bindings others : List (Symbol × Value)} (pairs : BindingsForecast registry lenient bindings others) :
    ({ around with settings }.environment ((forest.fresh parent).extend forest.child bindings)
        forest.child).Forecast registry lenient
      (around.environment ((later.fresh parent).extend later.child others) later.child) := by
  have keeps := (ContextForest.Persists.refl forest parent).keeps_fresh
  have keeps' := persists.keeps_fresh
  have values := value?_forecast sees persists pairs
  refine ⟨⟨trusted.sound _ (keeps _), fun symbol value found => ?_⟩,
    ⟨trusted.sound _ (keeps' _), fun symbol value found => ?_⟩, trusted.honest _ (keeps' _),
    fun strict => complete strict _ (keeps' _), trusted.monotone _ _ (keeps _) (keeps' _), fun symbol => ?_⟩
  · obtain ⟨_, -, forecast⟩ := rel_some (values symbol) found
    exact forecast.sound
  · obtain ⟨_, -, forecast⟩ := rel_some_right (values symbol) found
    exact forecast.sound'
  · exact rel_imp (values symbol) fun _ _ _ _ forecast => forecast.foretells

/-- One evaluation in each run. The second is not ended by a fault either. -/
theorem eval_forecast (trusted : around.Trusted registry forest)
    (complete : lenient = false → around.Complete registry forest) (sees : forest.Sees registry parent)
    (persists : forest.Persists later parent)
    {bindings others : List (Symbol × Value)} (pairs : BindingsForecast registry lenient bindings others)
    {expr : Expr} (literals : ∀ value ∈ expr.literals, value.wellFormed registry = true) {value : Value}
    {diagnostics : List Diagnostic}
    (evaluated : expr.eval ({ around with settings }.environment
      ((forest.fresh parent).extend forest.child bindings) forest.child) = .ok (value, diagnostics))
    (quiet : lenient = true ∨ diagnostics = []) :
    ∃ result reported,
      expr.eval (around.environment ((later.fresh parent).extend later.child others) later.child) =
        .ok (result, reported) ∧
      value.Forecast registry lenient result ∧
      (lenient = false → ∀ diagnostic ∈ reported, diagnostic.kind.dependsOnData = true) := by
  have forecast := environment_forecast settings trusted complete sees persists pairs
  obtain ⟨result, reported, gives, -⟩ := expr.eval_gives forecast.sound' literals
  exact ⟨result, reported, gives,
    expr.eval_forecasts forecast literals value diagnostics result reported evaluated gives quiet⟩

/-! ### Statements -/

theorem free_of_forecast {bindings others : List (Symbol × Value)}
    (pairs : BindingsForecast registry lenient bindings others) {symbol : Symbol}
    (free : ((forest.fresh parent).extend forest.child bindings).direct? forest.child symbol = none) :
    ((later.fresh parent).extend later.child others).direct? later.child symbol = none := by
  rw [ContextForest.direct?_fresh, if_pos rfl] at free ⊢
  exact rel_none (lookup_forecast pairs symbol) free

/-- One statement in each run: the bindings keep to what they foretold, and so does a result. -/
theorem Statement.run_forecast (trusted : around.Trusted registry forest)
    (complete : lenient = false → around.Complete registry forest) (sees : forest.Sees registry parent)
    (persists : forest.Persists later parent)
    {bindings others : List (Symbol × Value)} (pairs : BindingsForecast registry lenient bindings others)
    {statement : Statement}
    (literals : ∀ value ∈ statement.expr.literals, value.wellFormed registry = true)
    {last : ContextForest} {result : Option Value} {diagnostics : List Diagnostic}
    (ran : statement.run { around with settings } forest.child
      ((forest.fresh parent).extend forest.child bindings) = (last, .ok (result, diagnostics)))
    (quiet : lenient = true ∨ diagnostics = []) :
    ∃ bindings' others' result' reported,
      last = (forest.fresh parent).extend forest.child bindings' ∧
      statement.run around later.child ((later.fresh parent).extend later.child others) =
        ((later.fresh parent).extend later.child others', .ok (result', reported)) ∧
      BindingsForecast registry lenient bindings' others' ∧
      Option.Rel (Value.Forecast registry lenient) result result' ∧
      (lenient = false → ∀ diagnostic ∈ reported, diagnostic.kind.dependsOnData = true) := by
  cases statement with
  | assign symbol expr =>
    obtain ⟨value, evaluated, unsealed, free, rfl, rfl⟩ := Statement.run_assign_eq_ok.1 ran
    obtain ⟨value', reported, evaluated', forecast, data⟩ :=
      eval_forecast trusted complete sees persists pairs literals evaluated quiet
    refine ⟨bindings ++ [(symbol, value)], others ++ [(symbol, value')], none, reported,
      ContextForest.extend_extend .., ?_, pairs.add symbol forecast, .none, data⟩
    refine Statement.run_assign_eq_ok.2 ⟨value', evaluated', ?_, free_of_forecast pairs free, ?_, rfl⟩
    · rw [ContextForest.isSealed_extend, ContextForest.isSealed_fresh]
    · rw [ContextForest.extend_extend]
  | result expr =>
    obtain ⟨value, evaluated, rfl, rfl⟩ := Statement.run_result_eq_ok.1 ran
    obtain ⟨value', reported, evaluated', forecast, data⟩ :=
      eval_forecast trusted complete sees persists pairs literals evaluated quiet
    exact ⟨bindings, others, some value', reported, rfl,
      Statement.run_result_eq_ok.2 ⟨value', evaluated', rfl, rfl⟩, pairs, .some forecast, data⟩

/-- A run of statements in each context. -/
theorem Statement.runAll_forecast (trusted : around.Trusted registry forest)
    (complete : lenient = false → around.Complete registry forest) (sees : forest.Sees registry parent)
    (persists : forest.Persists later parent)
    {statements : List Statement} {bindings others : List (Symbol × Value)}
    (pairs : BindingsForecast registry lenient bindings others)
    (literals : ∀ statement ∈ statements, ∀ value ∈ statement.expr.literals,
      value.wellFormed registry = true)
    {last : ContextForest} {result : Option Value} {diagnostics : List Diagnostic}
    (ran : Statement.runAll { around with settings } forest.child statements
      ((forest.fresh parent).extend forest.child bindings) = (last, .ok (result, diagnostics)))
    (quiet : lenient = true ∨ diagnostics = []) :
    ∃ bindings' others' result' reported,
      last = (forest.fresh parent).extend forest.child bindings' ∧
      Statement.runAll around later.child statements ((later.fresh parent).extend later.child others) =
        ((later.fresh parent).extend later.child others', .ok (result', reported)) ∧
      BindingsForecast registry lenient bindings' others' ∧
      Option.Rel (Value.Forecast registry lenient) result result' ∧
      (lenient = false → ∀ diagnostic ∈ reported, diagnostic.kind.dependsOnData = true) := by
  induction statements generalizing bindings others result diagnostics with
  | nil =>
    obtain ⟨rfl, rfl, rfl⟩ := Statement.runAll_nil_eq_ok.1 ran
    exact ⟨bindings, others, none, [], rfl, Statement.runAll_nil_eq_ok.2 ⟨rfl, rfl, rfl⟩, pairs, .none,
      fun _ _ member => (nomatch member)⟩
  | cons statement rest ih =>
    obtain ⟨early, late, middle, before, after, first, remaining, rfl, rfl⟩ :=
      Statement.runAll_cons_eq_ok.1 ran
    have quietFirst : lenient = true ∨ before = [] :=
      quiet.imp_right fun silent => (List.append_eq_nil_iff.1 silent).1
    have quietRest : lenient = true ∨ after = [] :=
      quiet.imp_right fun silent => (List.append_eq_nil_iff.1 silent).2
    obtain ⟨bound, bound', early', before', rfl, first', pairs', earlyForecast, dataFirst⟩ :=
      Statement.run_forecast trusted complete sees persists pairs (literals statement (by simp)) first
        quietFirst
    obtain ⟨final, final', late', after', rfl, remaining', pairs'', lateForecast, dataRest⟩ :=
      ih pairs' (fun statement member => literals statement (List.mem_cons_of_mem _ member)) remaining
        quietRest
    refine ⟨final, final', late'.or early', before' ++ after', rfl,
      Statement.runAll_cons_eq_ok.2 ⟨early', late', _, before', after', first', remaining', rfl, rfl⟩, pairs'',
      ?_, fun strict diagnostic member => ?_⟩
    · cases lateForecast with
      | none => simpa using earlyForecast
      | some forecast => exact .some forecast
    · rcases List.mem_append.1 member with ofFirst | ofRest
      · exact dataFirst strict diagnostic ofFirst
      · exact dataRest strict diagnostic ofRest

/-! ### Blocks -/

theorem Block.summary_forecast (sees : forest.Sees registry parent)
    (persists : forest.Persists later parent) (scopes : ScopeForest) (scope : ScopeId)
    {bindings others : List (Symbol × Value)} (pairs : BindingsForecast registry lenient bindings others) :
    (Block.summary scopes forest.child scope ((forest.fresh parent).extend forest.child bindings)).Forecast
      registry lenient
      (Block.summary scopes later.child scope ((later.fresh parent).extend later.child others)) := by
  refine Value.ofAttributes_forecast ?_
  unfold ContextForest.allValues
  rw [List.map_map, List.map_map]
  refine List.forall₂_map_left_iff.2 (List.forall₂_map_right_iff.2 (List.forall₂_same.2 fun symbol _ => ?_))
  refine ⟨rfl, ?_⟩
  have pair := value?_forecast sees persists pairs symbol
  simp only [Function.comp_apply]
  generalize ContextForest.value? _ _ symbol = found at pair ⊢
  generalize ContextForest.value? _ _ symbol = found' at pair ⊢
  cases pair with
  | some forecast => exact forecast
  | none => exact ⟨rfl, rfl, .lost⟩

/-- A block in each fresh context. -/
theorem Block.run_forecast (trusted : around.Trusted registry forest)
    (complete : lenient = false → around.Complete registry forest) (sees : forest.Sees registry parent)
    (persists : forest.Persists later parent)
    {block : Block} {bindings others : List (Symbol × Value)}
    (pairs : BindingsForecast registry lenient bindings others)
    (literals : ∀ statement ∈ block.statements, ∀ value ∈ statement.expr.literals,
      value.wellFormed registry = true)
    {last : ContextForest} {value : Value} {diagnostics : List Diagnostic}
    (ran : block.run { around with settings } forest.child
      ((forest.fresh parent).extend forest.child bindings) = (last, .ok (value, diagnostics)))
    (quiet : lenient = true ∨ diagnostics = []) :
    ∃ last' value' reported,
      block.run around later.child ((later.fresh parent).extend later.child others) =
        (last', .ok (value', reported)) ∧
      value.Forecast registry lenient value' ∧
      (lenient = false → ∀ diagnostic ∈ reported, diagnostic.kind.dependsOnData = true) := by
  obtain ⟨result, ranAll, rfl⟩ := Block.run_eq_ok.1 ran
  obtain ⟨bindings', others', result', reported, rfl, ran', pairs', results, data⟩ :=
    Statement.runAll_forecast trusted complete sees persists pairs literals ranAll quiet
  refine ⟨_, _, reported, Block.run_eq_ok.2 ⟨result', ran', rfl⟩, ?_, data⟩
  cases results with
  | some forecast => exact forecast
  | none => exact Block.summary_forecast sees persists around.scopes block.scope pairs'

end Runs

end Circuitry
