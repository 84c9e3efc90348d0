import Circuitry.Proofs.Expr.Reference
import Circuitry.Proofs.Template.Prediction
import Circuitry.Session

/-!
# Runs that leave the functions of a session alone

A function made from a template looks names up in the contexts as they are when it is called, also in those of a
run that is under way. So what a run may count on is what no binding of its own can change: that under the names
which the templates of functions mention, the contexts around those functions show the same as before. A run that
starts in such contexts, binds only names that keep it so, and evaluates against sound hosts comes to a well-formed
value and leaves such contexts behind, unless it breaks a rule of contexts. The rules of `Run.Completes` show this
part by part.
-/

set_option autoImplicit false

namespace Circuitry

variable {registry : Registry}

/-- An expression depends on no symbols but those in it. -/
theorem Expr.eval_gives_of_symbols (env : Environment) {expr : Expr} (host : env.host.Sound registry)
    (values : ∀ symbol ∈ expr.symbols, ∀ value, env.value? symbol = some value → value.wellFormed registry = true)
    (literals : ∀ value ∈ expr.literals, value.wellFormed registry = true) :
    Reporting.GivesSound registry (expr.eval env) := by
  let narrowed : Environment :=
    { env with value? := fun symbol => if symbol ∈ expr.symbols then env.value? symbol else none }
  have agrees : env.AgreesOn expr.symbols narrowed := ⟨rfl, rfl, fun symbol member => (if_pos member).symm⟩
  have sound : narrowed.Sound registry := by
    refine ⟨host, fun symbol value found => ?_⟩
    by_cases member : symbol ∈ expr.symbols
    · exact values symbol member value ((if_pos member).symm.trans found)
    · cases (if_neg member).symm.trans found
  rw [expr.eval_congr agrees]
  exact expr.eval_gives sound literals

/-- The symbols that a block looks up: those in its expressions, and those of its scope, of which its value may be
made. -/
def Block.mentions (block : Block) (scopes : ScopeForest) : List Symbol :=
  block.statements.flatMap (fun statement => statement.expr.symbols) ++ scopes.symbols block.scope

namespace ContextForest

variable (forest : ContextForest)

/-- What is seen from a context under some symbols is well-formed. -/
def Shows (registry : Registry) (context : ContextId) (symbols : List Symbol) : Prop :=
  ∀ symbol ∈ symbols, ∀ value, forest.value? context symbol = some value → value.wellFormed registry = true

/-- All contexts around one are there. -/
def Closed : Prop := ∀ context, ∀ outer ∈ forest.path context, outer.index < forest.nodes.size

/-- Some symbols can be bound in a context, one after the other. -/
structure Takes (context : ContextId) (symbols : List Symbol) : Prop where
  unsealed : forest.isSealed context = false
  distinct : symbols.Nodup
  free : ∀ symbol ∈ symbols, forest.direct? context symbol = none

variable {forest} {context other parent : ContextId} {added : List (Symbol × Value)} {symbol : Symbol}

theorem Takes.append_left {before after : List Symbol} (takes : forest.Takes context (before ++ after)) :
    forest.Takes context before :=
  ⟨takes.unsealed, takes.distinct.of_append_left,
    fun symbol member => takes.free symbol (List.mem_append_left after member)⟩

/-- Once some symbols are bound and nothing else, the others can still be. -/
theorem Takes.append_right {later : ContextForest} {before after : List Symbol}
    (takes : forest.Takes context (before ++ after)) (sealing : later.isSealed context = forest.isSealed context)
    (frame : ∀ symbol, symbol ∉ before → later.direct? context symbol = forest.direct? context symbol) :
    later.Takes context after where
  unsealed := sealing.trans takes.unsealed
  distinct := takes.distinct.of_append_right
  free symbol member := by
    have apart : symbol ∉ before := fun earlier => List.disjoint_of_nodup_append takes.distinct earlier member
    rw [frame symbol apart]
    exact takes.free symbol (List.mem_append_right before member)

theorem Closed.extend (closed : forest.Closed) : (forest.extend context added).Closed := by
  intro inner outer member
  rw [path_extend] at member
  rw [size_extend]
  exact closed inner outer member

theorem Closed.fresh (closed : forest.Closed) : (forest.fresh parent).Closed := by
  intro inner outer member
  rw [size_fresh]
  by_cases same : inner = forest.child
  · rw [same, path_fresh_child] at member
    rcases List.mem_cons.1 member with rfl | around
    · exact Nat.lt_succ_self _
    · exact Nat.lt_succ_of_lt (closed parent outer around)
  · rw [path_fresh same] at member
    exact Nat.lt_succ_of_lt (closed inner outer member)

/-- The new context does not lie around an older one. -/
theorem Closed.child_apart (closed : forest.Closed) : forest.child ∉ forest.path other :=
  fun member => Nat.lt_irrefl _ (closed other forest.child member)

/-- What is seen from an older context does not change with a new one. -/
theorem value?_fresh_of_ne (apart : other ≠ forest.child) :
    (forest.fresh parent).value? other symbol = forest.value? other symbol := by
  unfold value?
  rw [path_fresh apart]
  exact findSome?_congr fun outer _ => direct?_fresh_nil outer symbol

/-- From the new context the same is seen as from the one around it. -/
theorem value?_fresh_child : (forest.fresh parent).value? forest.child symbol = forest.value? parent symbol := by
  have seen : ((forest.fresh parent).extend forest.child []).value? forest.child symbol =
      forest.value? parent symbol := value?_fresh [] symbol
  rw [extend_nil] at seen
  exact seen

/-- A binding is seen only under its symbol, and only from the contexts inside the one that has it. -/
theorem value?_extend_of_apart (unsealed : forest.isSealed context = false)
    (apart : added.lookup symbol = none ∨ context ∉ forest.path other) :
    (forest.extend context added).value? other symbol = forest.value? other symbol := by
  unfold value?
  rw [path_extend]
  refine findSome?_congr fun outer member => ?_
  by_cases same : outer = context
  · have missing : added.lookup symbol = none := apart.resolve_right fun outside => outside (same ▸ member)
    rw [same, direct?_extend_self _ _ _ unsealed, missing, Option.or_none]
  · exact direct?_extend_of_ne _ _ _ _ same symbol

/-- Where one function finds at most one value more than another, so does a search with it. -/
theorem findSome?_of_or {α β : Type} {items : List α} {first second : α → Option β} {extra : Option β} {value : β}
    (each : ∀ item, first item = second item ∨ first item = (second item).or extra)
    (found : items.findSome? first = some value) : items.findSome? second = some value ∨ extra = some value := by
  induction items with
  | nil => cases found
  | cons item rest ih =>
    rw [List.findSome?_cons] at found ⊢
    cases known : second item with
    | some known' =>
      have same : first item = some known' := by rcases each item with same | same <;> simp [same, known]
      rw [same] at found
      exact .inl found
    | none =>
      cases first_item : first item with
      | none =>
        rw [first_item] at found
        exact ih found
      | some made =>
        have from_extra : extra = some made := by
          rcases each item with same | same <;> simp_all
        rw [first_item] at found
        exact .inr (from_extra.trans found)

/-- What is seen after a binding was seen before, or is what was bound. -/
theorem value?_extend_eq_some {value : Value} (unsealed : forest.isSealed context = false)
    (found : (forest.extend context added).value? other symbol = some value) :
    forest.value? other symbol = some value ∨ added.lookup symbol = some value := by
  unfold value? at found ⊢
  rw [path_extend] at found
  refine findSome?_of_or (fun outer => ?_) found
  by_cases same : outer = context
  · exact .inr (same ▸ direct?_extend_self forest context added unsealed symbol)
  · exact .inl (direct?_extend_of_ne _ _ _ _ same symbol)

/-- A symbol that can be bound is bound; otherwise a rule of contexts is broken. -/
theorem define_or_error (context : ContextId) (symbol : Symbol) (value : Value) :
    forest.define context symbol value = .ok (forest.extend context [(symbol, value)]) ∨
      ∃ error, forest.define context symbol value = .error error ∧ ¬forest.Takes context [symbol] := by
  cases defined : forest.define context symbol value with
  | ok extended =>
    obtain ⟨-, -, same⟩ := define_eq_ok.1 defined
    exact .inl (congrArg Except.ok same)
  | error error =>
    refine .inr ⟨error, rfl, fun takes => ?_⟩
    have free := takes.free symbol (List.mem_singleton_self symbol)
    have bound : forest.define context symbol value = .ok _ := define_eq_ok.2 ⟨takes.unsealed, free, rfl⟩
    cases defined.symm.trans bound

end ContextForest

/-! ### Contexts in which functions find what they did -/

namespace Session

variable (session : Session)

/-- The contexts around the functions that templates make are there, and show the same as those of the session under
every symbol that the templates mention. -/
structure Undisturbed (contexts : ContextForest) : Prop where
  closed : contexts.Closed
  inside : ∀ number template parent, session.functions.get? number = some (.template template parent) →
    parent.index < contexts.nodes.size
  values : ∀ number template parent, session.functions.get? number = some (.template template parent) →
    ∀ symbol ∈ template.block.mentions session.scopes,
      contexts.value? parent symbol = session.contexts.value? parent symbol

/-- Where a run takes place: the context in which it binds symbols, those that it may bind, and those that it looks
up. -/
structure Place where
  context : ContextId
  binds : List Symbol
  looks : List Symbol

/-- No symbol that a run may bind is one that a function looks up there. -/
structure Sheltered (place : Place) (contexts : ContextForest) : Prop where
  undisturbed : session.Undisturbed contexts
  apart : ∀ number template parent, session.functions.get? number = some (.template template parent) →
    ∀ symbol ∈ place.binds, symbol ∈ template.block.mentions session.scopes →
      place.context ∉ contexts.path parent

/-- Besides, what the run looks up is well-formed. -/
structure Ready (registry : Registry) (place : Place) (contexts : ContextForest) : Prop
    extends session.Sheltered place contexts where
  shows : contexts.Shows registry place.context place.looks

variable {session} {place : Place} {contexts : ContextForest}

/-- Whatever is bound to a symbol that may be bound, functions do not see it. -/
theorem Sheltered.extend (sheltered : session.Sheltered place contexts) {symbol : Symbol}
    (unsealed : contexts.isSealed place.context = false) (bound : symbol ∈ place.binds) (value : Value) :
    session.Sheltered place (contexts.extend place.context [(symbol, value)]) where
  undisturbed := by
    refine ⟨sheltered.undisturbed.closed.extend, fun number template parent made => ?_,
      fun number template parent made other mentioned => ?_⟩
    · rw [ContextForest.size_extend]
      exact sheltered.undisturbed.inside number template parent made
    · rw [← sheltered.undisturbed.values number template parent made other mentioned]
      refine ContextForest.value?_extend_of_apart unsealed ?_
      by_cases same : other = symbol
      · exact .inr (sheltered.apart number template parent made symbol bound (same ▸ mentioned))
      · refine .inl ?_
        rw [List.lookup_cons, beq_false_of_ne same]
        rfl
  apart number template parent made other member mentioned := by
    rw [ContextForest.path_extend]
    exact sheltered.apart number template parent made other member mentioned

/-- If what is bound is well-formed, the run may go on. -/
theorem Ready.extend (ready : session.Ready registry place contexts) {symbol : Symbol} {value : Value}
    (unsealed : contexts.isSealed place.context = false) (bound : symbol ∈ place.binds)
    (sound : value.wellFormed registry = true) :
    session.Ready registry place (contexts.extend place.context [(symbol, value)]) where
  toSheltered := ready.toSheltered.extend unsealed bound value
  shows other member found seen := by
    rcases ContextForest.value?_extend_eq_some unsealed seen with before | now
    · exact ready.shows other member found before
    · rw [List.lookup_cons] at now
      split at now
      · cases now
        exact sound
      · cases now

/-- No function looks anything up in a fresh context. -/
theorem Undisturbed.enter (undisturbed : session.Undisturbed contexts) (parent : ContextId)
    (binds looks : List Symbol) :
    session.Sheltered ⟨contexts.child, binds, looks⟩ (contexts.fresh parent) where
  undisturbed := by
    refine ⟨undisturbed.closed.fresh, fun number template outer made => ?_,
      fun number template outer made symbol mentioned => ?_⟩
    · rw [ContextForest.size_fresh]
      exact Nat.lt_succ_of_lt (undisturbed.inside number template outer made)
    · rw [← undisturbed.values number template outer made symbol mentioned]
      have inside := undisturbed.inside number template outer made
      exact ContextForest.value?_fresh_of_ne fun same =>
        Nat.lt_irrefl _ (same ▸ inside)
  apart number template outer made _ _ _ := by
    have inside := undisturbed.inside number template outer made
    rw [ContextForest.path_fresh fun same => Nat.lt_irrefl _ (same ▸ inside)]
    exact undisturbed.closed.child_apart

/-- A fresh context shows what the one around it does. -/
theorem Undisturbed.enter_ready (undisturbed : session.Undisturbed contexts) {parent : ContextId}
    {looks : List Symbol} (binds : List Symbol) (shows : contexts.Shows registry parent looks) :
    session.Ready registry ⟨contexts.child, binds, looks⟩ (contexts.fresh parent) where
  toSheltered := undisturbed.enter parent binds looks
  shows symbol member value found := by
    rw [ContextForest.value?_fresh_child] at found
    exact shows symbol member value found

end Session

/-! ### Runs that complete -/

section Completes

variable {α β : Type} {session : Session} {place : Session.Place} {targets : List Symbol}
variable {sort : α → Prop} {sort' : β → Prop}

variable (session registry place targets sort) in
/-- In contexts that are ready a run gives a value of some sort and leaves them ready, having bound nothing but its
targets; or the targets cannot all be bound, and that is the fault which ends it. -/
def Run.Completes (run : Run α) : Prop :=
  ∀ contexts, session.Ready registry place contexts →
    (∃ last value diagnostics, run contexts = (last, .ok (value, diagnostics)) ∧ sort value ∧
      session.Ready registry place last ∧ last.isSealed place.context = contexts.isSealed place.context ∧
      ∀ symbol, symbol ∉ targets → last.direct? place.context symbol = contexts.direct? place.context symbol) ∨
    ∃ last error, run contexts = (last, .error (.context error)) ∧ ¬contexts.Takes place.context targets

namespace Run.Completes

protected theorem give {value : α} (holds : sort value) :
    Completes registry session place [] sort (give value) :=
  fun contexts ready => .inl ⟨contexts, value, [], rfl, holds, ready, rfl, fun _ _ => rfl⟩

protected theorem reading {computation : ContextForest → Reporting α}
    (gives : ∀ contexts, session.Ready registry place contexts → (computation contexts).Gives sort) :
    Completes registry session place [] sort (reading computation) := by
  intro contexts ready
  obtain ⟨value, diagnostics, gave, holds⟩ := gives contexts ready
  exact .inl ⟨contexts, value, diagnostics, congrArg (Prod.mk contexts) gave, holds, ready, rfl, fun _ _ => rfl⟩

protected theorem define {symbol : Symbol} {value : Value} (bound : symbol ∈ place.binds)
    (sound : value.wellFormed registry = true) :
    Completes registry session place [symbol] (fun _ => True) (define place.context symbol value) := by
  intro contexts ready
  rcases contexts.define_or_error place.context symbol value with
    defined | ⟨error, defined, refused⟩
  · obtain ⟨unsealed, free, -⟩ := ContextForest.define_eq_ok.1 defined
    refine .inl ⟨_, ⟨⟩, [], define_eq_ok.2 ⟨unsealed, free, rfl, rfl⟩, trivial,
      ready.extend unsealed bound sound, ContextForest.isSealed_extend .., fun other apart => ?_⟩
    exact ContextForest.direct?_extend_of_not_mem _ _ _ unsealed apart
  · refine .inr ⟨contexts, error, ?_, refused⟩
    simp only [Run.define, defined]

/-- What two runs bind one after the other is what they bind together. -/
protected theorem bind {first : Run α} {next : α → Run β} {before after : List Symbol}
    (split : targets = before ++ after) (completes : Completes registry session place before sort first)
    (further : ∀ value, sort value → Completes registry session place after sort' (next value)) :
    Completes registry session place targets sort' (first >>= next) := by
  subst split
  intro contexts ready
  rcases completes contexts ready with ⟨middle, value, reported, gave, holds, ready', sealing, frame⟩ |
    ⟨last, error, failed, refused⟩
  · rcases further value holds middle ready' with ⟨last, result, later, gives, holds', ready'', sealing', frame'⟩ |
      ⟨last, error, failed, refused⟩
    · refine .inl ⟨last, result, reported ++ later, bind_of_ok gave gives, holds', ready'',
        sealing'.trans sealing, fun symbol apart => ?_⟩
      rw [List.mem_append, not_or] at apart
      exact (frame' symbol apart.2).trans (frame symbol apart.1)
    · refine .inr ⟨last, error, bind_eq_error.2 (.inr ⟨value, middle, reported, gave, failed⟩), fun takes => ?_⟩
      -- if all could be bound at first, then what is left could still be bound in the middle
      exact refused (takes.append_right sealing frame)
  · exact .inr ⟨last, error, bind_eq_error.2 (.inl failed), fun takes => refused takes.append_left⟩

/-- Such a run never goes too deep. -/
theorem not_deep {run : Run α} (completes : Completes registry session place targets sort run)
    {contexts : ContextForest} (ready : session.Ready registry place contexts) :
    (run contexts).2 ≠ .error .tooDeep := by
  rcases completes contexts ready with ⟨_, _, _, same, -⟩ | ⟨_, _, same, -⟩
  · rw [same]
    exact fun deep => nomatch deep
  · rw [same]
    exact fun deep => nomatch deep

end Run.Completes

end Completes

/-! ### Statements and blocks -/

/-- The first of several statements binds its target before the others bind theirs. -/
theorem Statement.targets_cons (statement : Statement) (rest : List Statement) :
    (statement :: rest).filterMap Statement.target? =
      statement.target?.toList ++ rest.filterMap Statement.target? := by
  rw [List.filterMap_cons]
  cases statement.target? <;> rfl

section Blocks

variable {session : Session} (place : Session.Place) {around : Surroundings}
  (hosts : ∀ contexts, session.Undisturbed contexts → (around.hostIn contexts).Sound registry)
include hosts

theorem Expr.run_completes {expr : Expr} (literals : ∀ value ∈ expr.literals, value.wellFormed registry = true)
    (looks : expr.symbols ⊆ place.looks) :
    Run.Completes registry session place [] (fun value => value.wellFormed registry = true)
      (expr.run around place.context) :=
  .reading fun contexts ready =>
    expr.eval_gives_of_symbols (around.environment contexts place.context)
      (hosts contexts ready.undisturbed) (fun symbol member => ready.shows symbol (looks member)) literals

/-- Whatever a statement makes the result is well-formed. -/
theorem Statement.run_completes {statement : Statement}
    (literals : ∀ value ∈ statement.expr.literals, value.wellFormed registry = true)
    (looks : statement.expr.symbols ⊆ place.looks)
    (binds : ∀ symbol, statement.target? = some symbol → symbol ∈ place.binds) :
    Run.Completes registry session place statement.target?.toList
      (fun result => ∀ value, result = some value → value.wellFormed registry = true)
      (statement.run around place.context) := by
  cases statement with
  | assign symbol expr =>
    refine .bind rfl (expr.run_completes place hosts literals looks) fun value sound => ?_
    refine .bind (List.append_nil [symbol]).symm (.define (binds symbol rfl) sound) fun _ _ => ?_
    exact .give (by simp)
  | result expr =>
    refine .bind rfl (expr.run_completes place hosts literals looks) fun value sound => ?_
    exact .give fun _ same => Option.some.inj same ▸ sound

theorem Statement.runAll_completes {statements : List Statement}
    (literals : ∀ statement ∈ statements, ∀ value ∈ statement.expr.literals, value.wellFormed registry = true)
    (looks : ∀ statement ∈ statements, statement.expr.symbols ⊆ place.looks)
    (binds : statements.filterMap Statement.target? ⊆ place.binds) :
    Run.Completes registry session place (statements.filterMap Statement.target?)
      (fun result => ∀ value, result = some value → value.wellFormed registry = true)
      (Statement.runAll around place.context statements) := by
  induction statements with
  | nil => exact .give (by simp)
  | cons statement rest ih =>
    rw [Statement.targets_cons, List.append_subset] at binds
    have first := statement.run_completes place hosts (literals statement (by simp)) (looks statement (by simp))
      fun symbol is => binds.1 (by simp [is])
    have others := ih (fun other member => literals other (List.mem_cons_of_mem _ member))
      (fun other member => looks other (List.mem_cons_of_mem _ member)) binds.2
    refine .bind (Statement.targets_cons statement rest) first fun earlier soundEarlier => ?_
    refine .bind (List.append_nil _).symm others fun later soundLater => ?_
    refine .give fun value same => ?_
    cases later with
    | none => exact soundEarlier value same
    | some result => exact soundLater value same

/-- A block comes to a well-formed value, its result or an object of what its scope declares. -/
theorem Block.run_completes {block : Block}
    (literals : ∀ statement ∈ block.statements, ∀ value ∈ statement.expr.literals,
      value.wellFormed registry = true)
    (looks : block.mentions around.scopes ⊆ place.looks)
    (binds : block.statements.filterMap Statement.target? ⊆ place.binds) :
    Run.Completes registry session place (block.statements.filterMap Statement.target?)
      (fun value => value.wellFormed registry = true) (block.run around place.context) := by
  obtain ⟨inStatements, inScope⟩ := List.append_subset.1 looks
  have ran := Statement.runAll_completes place hosts literals
    (fun statement member symbol occurs => inStatements (List.mem_flatMap.2 ⟨statement, member, occurs⟩)) binds
  refine .bind (List.append_nil _).symm ran fun result sound => ?_
  cases result with
  | some value => exact .give (sound value rfl)
  | none =>
    refine .reading fun contexts ready => .give (Value.ofAttributes_wellFormed fun entry member => ?_)
    unfold ContextForest.allValues at member
    simp only [List.map_map, List.mem_map, Function.comp_apply] at member
    obtain ⟨symbol, declared, rfl⟩ := member
    cases found : contexts.value? place.context symbol with
    | none => rfl
    | some value => exact ready.shows symbol (inScope declared) value found

end Blocks

/-! ### Instances -/

namespace Template

variable {session : Session} {around : Surroundings} {template : Template}

/-- The symbols that an instance binds: the parameters of the template and the targets of its block. -/
def targets (template : Template) : List Symbol :=
  template.parameters.map TemplateParameter.symbol ++ template.block.statements.filterMap Statement.target?

/-- What an instance does in its context. -/
def runIn (template : Template) (around : Surroundings) (arguments : List (String × Value)) (context : ContextId) :
    Run Value := do
  let given ← template.takeAll around.settings arguments
  template.bindFrom context given 0 template.parameters
  template.block.run around context

/-- An instance runs in a fresh context. -/
theorem instantiate_eq (template : Template) (around : Surroundings) (parent : ContextId)
    (arguments : List (String × Value)) (contexts : ContextForest) :
    template.instantiate around parent arguments contexts =
      template.runIn around arguments contexts.child (contexts.fresh parent) :=
  Run.newChild_bind ..

theorem bindFrom_completes (place : Session.Place) {given : Given} (soundGiven : Given.Sound registry given)
    {parameters : List TemplateParameter} (sound : ∀ parameter ∈ parameters, parameter.Sound registry)
    (binds : parameters.map TemplateParameter.symbol ⊆ place.binds) (index : Nat) :
    Run.Completes registry session place (parameters.map TemplateParameter.symbol) (fun _ => True)
      (template.bindFrom place.context given index parameters) := by
  induction parameters generalizing index with
  | nil => exact .give trivial
  | cons parameter rest ih =>
    obtain ⟨bound, others⟩ := List.cons_subset.1 binds
    have made := template.parameterValue_gives true (sound parameter (by simp)) (soundGiven index)
    refine .bind rfl (.reading fun _ _ => made) fun value forecast => ?_
    refine .bind List.singleton_append.symm (.define bound forecast.sound') fun _ _ => ?_
    exact ih (fun parameter member => sound parameter (List.mem_cons_of_mem _ member)) others (index + 1)

/-- An instance comes to a well-formed value, unless it would have to bind a symbol twice. -/
theorem instantiate_completes (around : Surroundings)
    (hosts : ∀ contexts, session.Undisturbed contexts → (around.hostIn contexts).Sound registry)
    (sound : template.Sound registry) {contexts : ContextForest} (undisturbed : session.Undisturbed contexts)
    {parent : ContextId} (shows : contexts.Shows registry parent (template.block.mentions around.scopes))
    {arguments : List (String × Value)}
    (soundArguments : ∀ argument ∈ arguments, argument.2.wellFormed registry = true) :
    (∃ last value diagnostics,
        template.instantiate around parent arguments contexts = (last, .ok (value, diagnostics)) ∧
        value.wellFormed registry = true) ∨
      ∃ last error, template.instantiate around parent arguments contexts = (last, .error (.context error)) ∧
        ¬template.targets.Nodup := by
  have ready := undisturbed.enter_ready template.targets shows
  have took := template.takeAll_gives around.settings soundArguments
  have rest : Run.Completes registry session
      ⟨contexts.child, template.targets, template.block.mentions around.scopes⟩ template.targets
      (fun value => value.wellFormed registry = true) (template.runIn around arguments contexts.child) := by
    refine .bind (List.nil_append _).symm (.reading fun _ _ => took) fun given soundGiven => ?_
    refine .bind rfl (bindFrom_completes ⟨contexts.child, _, _⟩ soundGiven sound.parameters
      (List.subset_append_left _ _) 0) fun _ _ => ?_
    exact template.block.run_completes ⟨contexts.child, _, _⟩ hosts sound.literals
      (List.Subset.refl _) (List.subset_append_right _ _)
  rw [instantiate_eq]
  rcases rest _ ready with ⟨last, value, diagnostics, gives, holds, -⟩ | ⟨last, error, failed, refused⟩
  · exact .inl ⟨last, value, diagnostics, gives, holds⟩
  · refine .inr ⟨last, error, failed, fun distinct => refused ?_⟩
    exact ⟨ContextForest.isSealed_fresh, distinct, fun symbol _ => ContextForest.direct?_fresh_child symbol⟩

end Template

end Circuitry
