import Circuitry.Proofs.Template.Arguments

/-!
# What an abstract evaluation predicts

A template evaluated with all its parameters unknown tells of every instance, whatever arguments it is given.
The type that it finds is the type of each instance, unless a mistake leaves a placeholder. If it reports
nothing, then proper arguments lead to no reports but those that only the data could show: a division by zero,
an invalid index, a failed call.
-/

set_option autoImplicit false

namespace Circuitry.Template

variable {registry : Registry} {lenient : Bool} {around : Surroundings} {settings : Settings}
variable {template : Template} {forest later : ContextForest} {parent : ContextId}

/-! ### Runs taken apart -/

/-- An instance takes its arguments, binds its parameters in a fresh context and runs its block there. -/
theorem instantiate_eq_ok {arguments : List (String × Value)} {contexts last : ContextForest} {value : Value}
    {diagnostics : List Diagnostic} :
    template.instantiate around parent arguments contexts = (last, .ok (value, diagnostics)) ↔
      ∃ given bound taken before after,
        template.takeAll around.settings arguments = .ok (given, taken) ∧
        template.bindFrom contexts.child given 0 template.parameters (contexts.fresh parent) =
          (bound, .ok (⟨⟩, before)) ∧
        template.block.run around contexts.child bound = (last, .ok (value, after)) ∧
        diagnostics = taken ++ (before ++ after) := by
  change (Run.newChild parent >>= fun context =>
    (liftM (template.takeAll around.settings arguments) : Run Given) >>= fun given =>
      template.bindFrom context given 0 template.parameters >>= fun _ =>
        template.block.run around context) contexts = _ ↔ _
  rw [Run.bind_eq_ok]
  constructor
  · rintro ⟨context, inner, silent, _, made, rest, rfl⟩
    cases made
    obtain ⟨given, middle, taken, others, lifted, binding, rfl⟩ := Run.bind_eq_ok.1 rest
    obtain ⟨rfl, took⟩ := Run.lift_eq_ok.1 lifted
    obtain ⟨_, bound, before, after, bind, ran, rfl⟩ := Run.bind_eq_ok.1 binding
    exact ⟨given, bound, taken, before, after, took, bind, ran, rfl⟩
  · rintro ⟨given, bound, taken, before, after, took, bind, ran, rfl⟩
    exact ⟨contexts.child, contexts.fresh parent, [], taken ++ (before ++ after), rfl,
      Run.bind_of_ok (Run.lift_eq_ok.2 ⟨rfl, took⟩) (Run.bind_of_ok bind ran), rfl⟩

theorem evaluateAbstract_eq_ok {contexts last : ContextForest} {value : Value}
    {diagnostics : List Diagnostic} :
    template.evaluateAbstract around parent contexts = (last, .ok (value, diagnostics)) ↔
      ∃ bound before after,
        bindUnknown contexts.child template.parameters (contexts.fresh parent) = (bound, .ok (⟨⟩, before)) ∧
        template.block.run around contexts.child bound = (last, .ok (value, after)) ∧
        diagnostics = before ++ after := by
  change (Run.newChild parent >>= fun context => bindUnknown context template.parameters >>= fun _ =>
    template.block.run around context) contexts = _ ↔ _
  rw [Run.bind_eq_ok]
  constructor
  · rintro ⟨context, inner, silent, _, made, rest, rfl⟩
    cases made
    obtain ⟨_, bound, before, after, bind, ran, rfl⟩ := Run.bind_eq_ok.1 rest
    exact ⟨bound, before, after, bind, ran, rfl⟩
  · rintro ⟨bound, before, after, bind, ran, rfl⟩
    exact ⟨contexts.child, contexts.fresh parent, [], before ++ after, rfl, Run.bind_of_ok bind ran, rfl⟩

theorem bindUnknown_extends {context : ContextId} {parameters : List TemplateParameter}
    {contexts last : ContextForest} {diagnostics : List Diagnostic}
    (bound : bindUnknown context parameters contexts = (last, .ok (⟨⟩, diagnostics))) :
    ∃ added, last = contexts.extend context added := by
  induction parameters generalizing contexts with
  | nil =>
    cases bound
    exact ⟨[], (last.extend_nil context).symm⟩
  | cons parameter rest ih =>
    obtain ⟨-, -, others⟩ := bindUnknown_cons_eq_ok.1 bound
    obtain ⟨added, rfl⟩ := ih others
    exact ⟨_ :: added, contexts.extend_extend context [_] added⟩

/-- Nothing changes for the context in which a template is evaluated. -/
theorem evaluateAbstract_persists (inside : parent.index < forest.nodes.size)
    (outside : forest.child ∉ forest.path parent) {last : ContextForest} {value : Value}
    {diagnostics : List Diagnostic}
    (evaluated : template.evaluateAbstract around parent forest = (last, .ok (value, diagnostics))) :
    forest.Persists last parent := by
  obtain ⟨bound, _, _, bind, ran, -⟩ := evaluateAbstract_eq_ok.1 evaluated
  obtain ⟨unknowns, rfl⟩ := bindUnknown_extends bind
  obtain ⟨added, rfl⟩ := Block.run_extends ran
  rw [ContextForest.extend_extend]
  exact ContextForest.persists_fresh _ inside outside

/-! ### Sound templates -/

/-- A template with sound parameters and well-formed literals. -/
structure Sound (registry : Registry) (template : Template) : Prop where
  parameters : ∀ parameter ∈ template.parameters, parameter.Sound registry
  literals : ∀ statement ∈ template.block.statements, ∀ value ∈ statement.expr.literals,
    value.wellFormed registry = true

/-- Whatever is scheduled was given. -/
theorem mem_of_mem_schedule {statements : List Statement} {scope : ScopeId} {statement : Statement}
    (member : statement ∈ (schedule statements scope).1.statements) : statement ∈ statements := by
  obtain ⟨index, -, found⟩ := List.mem_filterMap.1 member
  exact List.mem_of_getElem? found

theorem ofStatements_sound (name : String) (scope : ScopeId) {parameters : List TemplateParameter}
    {statements : List Statement} (soundParameters : ∀ parameter ∈ parameters, parameter.Sound registry)
    (literals : ∀ statement ∈ statements, ∀ value ∈ statement.expr.literals,
      value.wellFormed registry = true) :
    (ofStatements name scope parameters statements).1.Sound registry :=
  ⟨soundParameters, fun statement member =>
    literals statement (List.mem_of_mem_filter (mem_of_mem_schedule member))⟩

/-! ### The forecast -/

variable (lenient) in
/-- Every instance runs to its end, and its block keeps to what the abstract evaluation foretold. -/
theorem instantiate_forecast (sound : template.Sound registry) (trusted : around.Trusted registry forest)
    (complete : lenient = false → around.Complete registry forest) (sees : forest.Sees registry parent)
    (persists : forest.Persists later parent) {arguments : List (String × Value)}
    (soundArguments : ∀ argument ∈ arguments, argument.2.wellFormed registry = true)
    {last : ContextForest} {value : Value} {diagnostics : List Diagnostic}
    (evaluated : template.evaluateAbstract { around with settings } parent forest =
      (last, .ok (value, diagnostics)))
    (quiet : lenient = true ∨ diagnostics = []) :
    ∃ given bound taken before last' result after,
      template.takeAll around.settings arguments = .ok (given, taken) ∧
      template.bindFrom later.child given 0 template.parameters (later.fresh parent) =
        (bound, .ok (⟨⟩, before)) ∧
      template.block.run around later.child bound = (last', .ok (result, after)) ∧
      value.Forecast registry lenient result ∧
      (lenient = false → ∀ diagnostic ∈ after, diagnostic.kind.dependsOnData = true) := by
  obtain ⟨abstract, unknowns, reported, bindAbstract, ranAbstract, rfl⟩ := evaluateAbstract_eq_ok.1 evaluated
  obtain ⟨given, taken, took, soundGiven⟩ :=
    takeAll_gives template around.settings soundArguments
  rw [← (forest.fresh parent).extend_nil forest.child] at bindAbstract
  obtain ⟨bindings, others, before, rfl, bind, pairs, rfl⟩ :=
    bindFrom_forecast template later soundGiven 0 sound.parameters .nil bindAbstract
  rw [ContextForest.extend_nil] at bind
  obtain ⟨last', result, after, ran, forecast, data⟩ :=
    Block.run_forecast trusted complete sees persists pairs sound.literals ranAbstract (by simpa using quiet)
  exact ⟨given, _, taken, before, last', result, after, took, bind, ran, forecast, data⟩

/-! ### A template that calls a function -/

namespace Guard

/-- A function bound outside the template. -/
def check : Symbol := ⟨0, "check", ⟨0⟩⟩

def enabled : Symbol := ⟨1, "enabled", ⟨1⟩⟩

def passed : Symbol := ⟨2, "passed", ⟨1⟩⟩

/-- One parameter, a truth value without a default. -/
def parameters : List TemplateParameter := [⟨enabled, .bool, none⟩]

/-- Exports the negation of what the function makes of the parameter. -/
def statements : List Statement :=
  [.result (.unary .not (.symbol passed (.atStart 0)) (.atStart 0)),
    .assign passed
      (.call (.symbol check (.atStart 0)) [.positional (.symbol enabled (.atStart 0))] (.atStart 0))]

/-- A sealed context that binds the function. -/
def contexts : ContextForest :=
  .sealedRoot [(check, .ofFunction ⟨[⟨"input", .exactly .bool, none⟩], .fixed .bool⟩ ⟨0⟩)]

def surroundings : Surroundings := ⟨⟨.ofList [], 0⟩, fun _ => .affirming, .standard⟩

theorem trusted : surroundings.Trusted .ofPredicates contexts :=
  .of_constant Host.affirming_sound Host.affirming_honest Host.affirming_refinedBy _ _ _

/-- The contexts after an abstract evaluation. -/
def evaluated : ContextForest :=
  ((ofStatements "guard" ⟨1⟩ parameters statements).1.evaluateAbstract surroundings ⟨0⟩ contexts).1

theorem evaluated_eq : (ofStatements "guard" ⟨1⟩ parameters statements).1.evaluateAbstract surroundings ⟨0⟩
    contexts = (evaluated, .ok (.unknown .bool, [])) := rfl

theorem parameters_sound : ∀ parameter ∈ parameters, parameter.Sound .ofPredicates := by
  intro parameter member
  obtain rfl := List.mem_singleton.1 member
  exact ⟨rfl, fun _ missing => (nomatch missing)⟩

theorem literals_sound : ∀ statement ∈ statements, ∀ value ∈ statement.expr.literals,
    value.wellFormed .ofPredicates = true := by
  have none : ∀ statement ∈ statements, statement.expr.literals = [] := by decide
  intro statement member value literal
  rw [none statement member] at literal
  cases literal

theorem contexts_see : contexts.Sees .ofPredicates ⟨0⟩ := .of_bindings (by decide)

theorem evaluated_persists : contexts.Persists evaluated ⟨0⟩ :=
  evaluateAbstract_persists (by decide) (by decide) evaluated_eq

theorem fits : (ofStatements "guard" ⟨1⟩ parameters statements).1.Fits .ofPredicates
    [("enabled", .ofBool false)] where
  distinct := by decide
  sound := by decide
  typed argument member := by
    obtain rfl := List.mem_singleton.1 member
    exact ⟨0, ⟨enabled, .bool, none⟩, by decide, rfl, rfl⟩
  supplied index parameter found _ := by
    refine ⟨_, List.mem_singleton_self _, ?_⟩
    match index, found with
    | 0, _ => decide

end Guard

/-! ### The type of an instance -/

/-- The type that an abstract evaluation finds is the type of every instance that has one. -/
theorem instantiate_predicted_type {name : String} {scope : ScopeId} {parameters : List TemplateParameter}
    {statements : List Statement} (soundParameters : ∀ parameter ∈ parameters, parameter.Sound registry)
    (literals : ∀ statement ∈ statements, ∀ value ∈ statement.expr.literals,
      value.wellFormed registry = true)
    (trusted : around.Trusted registry forest) (sees : forest.Sees registry parent)
    (persists : forest.Persists later parent) {arguments : List (String × Value)}
    (soundArguments : ∀ argument ∈ arguments, argument.2.wellFormed registry = true)
    {last : ContextForest} {value : Value} {diagnostics : List Diagnostic}
    (evaluated : (ofStatements name scope parameters statements).1.evaluateAbstract { around with settings }
      parent forest = (last, .ok (value, diagnostics)))
    {ty : Ty} (typed : value.ty? = some ty) :
    ∃ last' result reported,
      (ofStatements name scope parameters statements).1.instantiate around parent arguments later =
        (last', .ok (result, reported)) ∧
      (result = .placeholder ∨ ∃ ty', result.ty? = some ty' ∧ ty.same ty' = true) := by
  obtain ⟨given, bound, taken, before, last', result, after, took, bind, ran, forecast, -⟩ :=
    instantiate_forecast true (ofStatements_sound name scope soundParameters literals) trusted
      (fun impossible => (nomatch impossible)) sees persists soundArguments evaluated (.inl rfl)
  refine ⟨last', result, taken ++ (before ++ after),
    instantiate_eq_ok.2 ⟨given, bound, taken, before, after, took, bind, ran, rfl⟩, ?_⟩
  exact (forecast.foretells.strict (Value.ty?_ne_none.1 (by simp [typed]))).imp_right
    fun refined => refined.ty typed

/-- What an abstract evaluation found holds of an instance made after it. -/
theorem guard_predicted_type :
    ∃ last' result reported,
      (ofStatements "guard" ⟨1⟩ Guard.parameters Guard.statements).1.instantiate Guard.surroundings ⟨0⟩
        [("enabled", .ofBool false)] Guard.evaluated = (last', .ok (result, reported)) ∧
      (result = .placeholder ∨ ∃ ty', result.ty? = some ty' ∧ Ty.bool.same ty' = true) :=
  instantiate_predicted_type Guard.parameters_sound Guard.literals_sound Guard.trusted Guard.contexts_see
    Guard.evaluated_persists Guard.fits.sound Guard.evaluated_eq rfl

/-! ### Reports of an instance -/

/-- If an abstract evaluation reports nothing, proper arguments lead to reports of what depends on the data and
to no others. -/
theorem instantiate_reports_only_data {name : String} {scope : ScopeId} {parameters : List TemplateParameter}
    {statements : List Statement} (soundParameters : ∀ parameter ∈ parameters, parameter.Sound registry)
    (literals : ∀ statement ∈ statements, ∀ value ∈ statement.expr.literals,
      value.wellFormed registry = true)
    (trusted : around.Trusted registry forest) (complete : around.Complete registry forest)
    (sees : forest.Sees registry parent) (persists : forest.Persists later parent)
    {arguments : List (String × Value)}
    (fits : (ofStatements name scope parameters statements).1.Fits registry arguments)
    {last : ContextForest} {value : Value}
    (evaluated : (ofStatements name scope parameters statements).1.evaluateAbstract { around with settings }
      parent forest = (last, .ok (value, []))) :
    ∃ last' result reported,
      (ofStatements name scope parameters statements).1.instantiate around parent arguments later =
        (last', .ok (result, reported)) ∧
      ∀ diagnostic ∈ reported, diagnostic.kind = .divisionByZero ∨ diagnostic.kind = .invalidIndex ∨
        diagnostic.kind = .callFailed := by
  have sound := ofStatements_sound name scope soundParameters literals
  obtain ⟨given, bound, taken, before, last', result, after, took, bind, ran, -, data⟩ :=
    instantiate_forecast false sound trusted (fun _ => complete) sees persists fits.sound
      evaluated (.inr rfl)
  refine ⟨last', result, taken ++ (before ++ after),
    instantiate_eq_ok.2 ⟨given, bound, taken, before, after, took, bind, ran, rfl⟩, ?_⟩
  cases took.symm.trans (takeAll_silent fits)
  obtain rfl := bindFrom_silent sound.parameters 0
    (fun offset parameter found => by simpa using fits.covers found) bind
  intro diagnostic member
  exact DiagnosticKind.dependsOnData_iff.1 (data rfl diagnostic (by simpa using member))

theorem guard_reports_only_data :
    ∃ last' result reported,
      (ofStatements "guard" ⟨1⟩ Guard.parameters Guard.statements).1.instantiate Guard.surroundings ⟨0⟩
        [("enabled", .ofBool false)] Guard.evaluated = (last', .ok (result, reported)) ∧
      ∀ diagnostic ∈ reported, diagnostic.kind = .divisionByZero ∨ diagnostic.kind = .invalidIndex ∨
        diagnostic.kind = .callFailed :=
  instantiate_reports_only_data Guard.parameters_sound Guard.literals_sound Guard.trusted
    (fun _ _ => Host.affirming_complete) Guard.contexts_see Guard.evaluated_persists Guard.fits
    Guard.evaluated_eq

end Circuitry.Template
