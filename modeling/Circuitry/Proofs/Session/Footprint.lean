import Circuitry.Proofs.Session.Shelter

/-!
# What runs leave behind

What a run does to the contexts does not depend on how it ends. It binds symbols in one context, one after the
other: these are its footprint. So it spares the functions that look none of them up there; an instance, whose
context is fresh, spares them all. If no fault ends a run, then it has bound each symbol of its footprint, once
and for the first time. And where they can all be bound, binding is never at fault, only what the run computes.
-/

set_option autoImplicit false

namespace Circuitry

/-! ### Footprints -/

/-- A run that binds symbols in a context, one after the other, and changes nothing else. What it computes in between
is at fault only in ways that are allowed. -/
inductive Run.Footprint (context : ContextId) (allowed : Fault → Prop) :
    {α : Type} → List Symbol → Run α → Prop where
  | give {α : Type} (value : α) : Footprint context allowed [] (give value)
  | reading {α : Type} {computation : ContextForest → Reporting α}
      (faults : ∀ contexts fault, computation contexts = .error fault → allowed fault) :
      Footprint context allowed [] (reading computation)
  | define (symbol : Symbol) (value : Value) : Footprint context allowed [symbol] (define context symbol value)
  | bind {α β : Type} {first : Run α} {next : α → Run β} {before after : List Symbol} :
      Footprint context allowed before first → (∀ value, Footprint context allowed after (next value)) →
      Footprint context allowed (before ++ after) (first >>= next)

/-- Some evaluation of the expression of a statement in a context ends with a fault. -/
def Statement.Faults (around : Surroundings) (context : ContextId) (fault : Fault) (statement : Statement) : Prop :=
  ∃ contexts, statement.expr.eval (around.environment contexts context) = .error fault

section Footprints

variable {α β : Type} {context : ContextId} {allowed : Fault → Prop} {targets : List Symbol} {around : Surroundings}

namespace Run.Footprint

/-- A run that binds nothing itself has the footprint of what follows it. -/
theorem skip {first : Run α} {next : α → Run β} (footprint : Footprint context allowed [] first)
    (further : ∀ value, Footprint context allowed targets (next value)) :
    Footprint context allowed targets (first >>= next) :=
  .bind footprint further

/-- So has one that is followed by what binds nothing. -/
theorem finish {first : Run α} {next : α → Run β} (footprint : Footprint context allowed targets first)
    (further : ∀ value, Footprint context allowed [] (next value)) :
    Footprint context allowed targets (first >>= next) := by
  have both := Footprint.bind footprint further
  rwa [List.append_nil] at both

/-- What follows a computation that no fault ends may count on what was given. -/
theorem given {computation : Reporting α} {sort : α → Prop} {next : α → Run β} (gives : computation.Gives sort)
    (further : ∀ value, sort value → Footprint context allowed targets (next value)) :
    Footprint context allowed targets ((liftM computation : Run α) >>= next) := by
  obtain ⟨value, diagnostics, rfl, holds⟩ := gives
  have known : Footprint context allowed targets
      (Run.reading (fun _ => .ok (value, diagnostics)) >>= fun _ : α => next value) :=
    .skip (.reading fun _ _ => nofun) fun _ => further value holds
  exact known

end Run.Footprint

theorem Statement.run_footprint (statement : Statement)
    (faults : ∀ fault, statement.Faults around context fault → allowed fault) :
    Run.Footprint context allowed statement.target?.toList (statement.run around context) := by
  have evaluated : Run.Footprint context allowed [] (statement.expr.run around context) :=
    .reading fun contexts fault failed => faults fault ⟨contexts, failed⟩
  cases statement with
  | assign symbol expr =>
    exact .skip evaluated fun value => .finish (.define symbol value) fun _ => .give none
  | result expr => exact .skip evaluated fun value => .give (some value)

theorem Statement.runAll_footprint {statements : List Statement}
    (faults : ∀ statement ∈ statements, ∀ fault, statement.Faults around context fault → allowed fault) :
    Run.Footprint context allowed (statements.filterMap Statement.target?)
      (Statement.runAll around context statements) := by
  induction statements with
  | nil => exact .give none
  | cons statement rest ih =>
    have others := ih fun other member => faults other (List.mem_cons_of_mem _ member)
    rw [Statement.targets_cons]
    exact .bind (statement.run_footprint (faults statement List.mem_cons_self)) fun earlier =>
      others.finish fun later => .give (later <|> earlier)

/-- A block binds the targets of its statements. -/
theorem Block.run_footprint (block : Block)
    (faults : ∀ statement ∈ block.statements, ∀ fault, statement.Faults around context fault → allowed fault) :
    Run.Footprint context allowed (block.statements.filterMap Statement.target?) (block.run around context) := by
  refine (Statement.runAll_footprint faults).finish fun result => ?_
  cases result with
  | some value => exact .give value
  | none => exact .reading fun _ _ => nofun

namespace Template

/-- Where a fault that ends an instance in a context comes from: the expression of a statement, or an argument whose
type is not that of the parameter and cannot be written out. -/
inductive Blames (template : Template) (around : Surroundings) (arguments : List (String × Value))
    (context : ContextId) (fault : Fault) : Prop
  | statement (statement : Statement) (scheduled : statement ∈ template.block.statements)
    (failed : statement.Faults around context fault)
  | argument (parameter : TemplateParameter) (declared : parameter ∈ template.parameters)
    (argument : String × Value) (given : argument ∈ arguments)
    (failed : template.parameterValue parameter (some argument.2) = .error fault)

/-- What stands in for a missing argument is never at fault. -/
theorem parameterValue_none_ne_error (template : Template) (parameter : TemplateParameter) (fault : Fault) :
    template.parameterValue parameter none ≠ .error fault := by
  unfold parameterValue
  cases parameter.fallback <;> nofun

theorem bindFrom_footprint (template : Template) (given : Given) (index : Nat) {parameters : List TemplateParameter}
    (faults : ∀ parameter ∈ parameters, ∀ index fault,
      template.parameterValue parameter (given.lookup index) = .error fault → allowed fault) :
    Run.Footprint context allowed (parameters.map TemplateParameter.symbol)
      (template.bindFrom context given index parameters) := by
  induction parameters generalizing index with
  | nil => exact .give PUnit.unit
  | cons parameter rest ih =>
    have others := fun index => ih index fun other member => faults other (List.mem_cons_of_mem _ member)
    exact .skip (.reading fun _ => faults parameter List.mem_cons_self index) fun value =>
      .bind (.define parameter.symbol value) fun _ => others (index + 1)

theorem bindUnknown_footprint (parameters : List TemplateParameter) :
    Run.Footprint context allowed (parameters.map TemplateParameter.symbol) (bindUnknown context parameters) := by
  induction parameters with
  | nil => exact .give PUnit.unit
  | cons parameter rest ih => exact .bind (.define parameter.symbol _) fun _ => ih

/-- An instance binds the parameters and then the targets of the block. -/
theorem instance_footprint (template : Template) (around : Surroundings) (arguments : List (String × Value))
    (context : ContextId) :
    Run.Footprint context (template.Blames around arguments context) template.targets
      (template.runIn around arguments context) := by
  have took : Reporting.Gives (fun given => ∀ index value, given.lookup index = some value →
      value ∈ arguments.map Prod.snd) (template.takeAll around.settings arguments) :=
    template.takeAll_gives_of_forall _ fun _ member => List.mem_map_of_mem member
  refine .given took fun given taken => ?_
  refine .bind (template.bindFrom_footprint given 0 fun parameter declared index fault failed => ?_) fun _ =>
    template.block.run_footprint fun statement scheduled fault failed => .statement statement scheduled failed
  cases found : given.lookup index with
  | none =>
    rw [found] at failed
    exact absurd failed (template.parameterValue_none_ne_error parameter fault)
  | some value =>
    rw [found] at failed
    obtain ⟨argument, member, rfl⟩ := List.mem_map.1 (taken index value found)
    exact .argument parameter declared argument member failed

/-- An abstract evaluation binds them too. -/
theorem abstract_footprint (template : Template) (around : Surroundings) (context : ContextId) :
    Run.Footprint context (fun _ => True) template.targets
      (bindUnknown context template.parameters >>= fun _ => template.block.run around context) :=
  .bind (bindUnknown_footprint template.parameters) fun _ => template.block.run_footprint fun _ _ _ _ => trivial

end Template

end Footprints

/-! ### Sparing functions -/

section Sparing

variable {α : Type} {session : Session} {contexts : ContextForest} {allowed : Fault → Prop}

theorem Run.bind_fst_of_ok {β : Type} {first : Run α} {next : α → Run β} {middle : ContextForest} {value : α}
    {before : List Diagnostic} (gave : first contexts = (middle, .ok (value, before))) :
    ((first >>= next) contexts).1 = (next value middle).1 := by
  change (first.andThen next contexts).1 = _
  simp only [andThen, gave]
  rcases next value middle with ⟨last, fault | ⟨result, after⟩⟩ <;> rfl

/-- Where no function looks up what a run binds, none does after the run, however it ends. -/
theorem Run.Footprint.sheltered {context : ContextId} {targets binds looks : List Symbol} {run : Run α}
    (footprint : Footprint context allowed targets run) (within : targets ⊆ binds)
    (sheltered : session.Sheltered ⟨context, binds, looks⟩ contexts) :
    session.Sheltered ⟨context, binds, looks⟩ (run contexts).1 := by
  induction footprint generalizing contexts with
  | give value => exact sheltered
  | reading faults => exact sheltered
  | define symbol value =>
    unfold Run.define
    cases defined : contexts.define context symbol value with
    | error error => exact sheltered
    | ok extended =>
      obtain ⟨unsealed, -, rfl⟩ := ContextForest.define_eq_ok.1 defined
      exact sheltered.extend unsealed (within List.mem_cons_self) value
  | @bind _ _ first next before after _ _ ih ihNext =>
    obtain ⟨early, late⟩ := List.append_subset.1 within
    have middle := ih early sheltered
    rcases ran : first contexts with ⟨left, fault | ⟨value, reported⟩⟩
    · have failed : (first >>= next) contexts = (left, .error fault) := bind_eq_error.2 (.inl ran)
      rw [ran] at middle
      rw [failed]
      exact middle
    · rw [ran] at middle
      rw [bind_fst_of_ok ran]
      exact ihNext value late middle

/-- A run inside a fresh context leaves the functions of a session alone. -/
theorem Run.Footprint.undisturbed {targets : List Symbol} {run : Run α}
    (footprint : Footprint contexts.child allowed targets run) (undisturbed : session.Undisturbed contexts)
    (parent : ContextId) : session.Undisturbed (run (contexts.fresh parent)).1 :=
  (footprint.sheltered (List.Subset.refl targets) (undisturbed.enter parent targets [])).undisturbed

/-- So does an instance, however it ends. -/
theorem Template.instantiate_undisturbed (undisturbed : session.Undisturbed contexts) (template : Template)
    (around : Surroundings) (parent : ContextId) (arguments : List (String × Value)) :
    session.Undisturbed (template.instantiate around parent arguments contexts).1 := by
  rw [instantiate_eq]
  exact (template.instance_footprint around arguments contexts.child).undisturbed undisturbed parent

/-- An abstract evaluation does so as well. -/
theorem Template.evaluateAbstract_undisturbed (undisturbed : session.Undisturbed contexts) (template : Template)
    (around : Surroundings) (parent : ContextId) :
    session.Undisturbed (template.evaluateAbstract around parent contexts).1 := by
  unfold evaluateAbstract
  rw [Run.newChild_bind]
  exact (template.abstract_footprint around contexts.child).undisturbed undisturbed parent

end Sparing

/-! ### What runs have bound -/

section Bound

variable {α : Type} {context : ContextId} {allowed : Fault → Prop} {targets : List Symbol} {run : Run α}
variable {contexts : ContextForest}

variable (contexts) in
/-- However it ends, a run has bound the first symbols of its footprint; and all of them if no fault ends it. -/
theorem Run.Footprint.leaves (footprint : Footprint context allowed targets run) :
    ∃ added, (run contexts).1 = contexts.extend context added ∧ added.map Prod.fst <+: targets ∧
      ∀ value diagnostics, (run contexts).2 = .ok (value, diagnostics) → added.map Prod.fst = targets := by
  induction footprint generalizing contexts with
  | give value => exact ⟨[], (ContextForest.extend_nil ..).symm, List.prefix_rfl, fun _ _ _ => rfl⟩
  | reading faults => exact ⟨[], (ContextForest.extend_nil ..).symm, List.prefix_rfl, fun _ _ _ => rfl⟩
  | define symbol value =>
    unfold Run.define
    cases defined : contexts.define context symbol value with
    | error error => exact ⟨[], (ContextForest.extend_nil ..).symm, List.nil_prefix, fun _ _ => nofun⟩
    | ok extended =>
      obtain ⟨-, -, same⟩ := ContextForest.define_eq_ok.1 defined
      exact ⟨[(symbol, value)], same, List.prefix_rfl, fun _ _ _ => rfl⟩
  | @bind _ _ first next before after _ _ ih ihNext =>
    obtain ⟨added, extended, within, complete⟩ := ih contexts
    rcases ran : first contexts with ⟨middle, fault | ⟨value, reported⟩⟩
    · -- a fault in the first part ends both
      have failed : (first >>= next) contexts = (middle, .error fault) := bind_eq_error.2 (.inl ran)
      rw [ran] at extended
      rw [failed]
      exact ⟨added, extended, within.trans (List.prefix_append before after), fun _ _ => nofun⟩
    · rw [ran] at extended complete
      have bound : added.map Prod.fst = before := complete value reported rfl
      obtain rfl : middle = contexts.extend context added := extended
      obtain ⟨more, extended', within', complete'⟩ := ihNext value (contexts.extend context added)
      refine ⟨added ++ more, ?_, ?_, fun result diagnostics gave => ?_⟩
      · rw [bind_fst_of_ok ran, extended', ContextForest.extend_extend]
      · rw [List.map_append, bound]
        exact (List.prefix_append_right_inj before).2 within'
      · obtain ⟨made, middle, _, later, gave', gives, -⟩ :=
          bind_eq_ok.1 (Prod.ext rfl gave : (first >>= next) contexts = (_, .ok (result, diagnostics)))
        cases ran.symm.trans gave'
        rw [List.map_append, bound, complete' result later (congrArg Prod.snd gives)]

/-- Where the symbols of its footprint can be bound, only what a run computes can be at fault. -/
theorem Run.Footprint.blames (footprint : Footprint context allowed targets run)
    (takes : contexts.Takes context targets) {fault : Fault} (failed : (run contexts).2 = .error fault) :
    allowed fault := by
  induction footprint generalizing contexts with
  | give value => cases failed
  | reading faults => exact faults contexts fault failed
  | define symbol value =>
    have free := takes.free symbol (List.mem_singleton_self symbol)
    have ran : Run.define context symbol value contexts = (contexts.extend context [(symbol, value)], .ok (⟨⟩, [])) :=
      define_eq_ok.2 ⟨takes.unsealed, free, rfl, rfl⟩
    rw [ran] at failed
    cases failed
  | @bind _ _ first next before after earlier _ ih ihNext =>
    have ended : (first >>= next) contexts = (_, .error fault) := Prod.ext rfl failed
    rcases bind_eq_error.1 ended with ran | ⟨value, middle, reported, ran, ran'⟩
    · exact ih takes.append_left (congrArg Prod.snd ran)
    · obtain ⟨added, extended, -, complete⟩ := earlier.leaves contexts
      rw [ran] at extended complete
      have bound : added.map Prod.fst = before := complete value reported rfl
      obtain rfl : middle = contexts.extend context added := extended
      have rest : (contexts.extend context added).Takes context after :=
        takes.append_right (ContextForest.isSealed_extend ..) fun symbol apart =>
          ContextForest.direct?_extend_of_not_mem _ _ _ takes.unsealed (bound ▸ apart)
      exact ihNext value rest (congrArg Prod.snd ran')

/-- A run that no fault ends has bound the symbols of its footprint, each once and none that was bound before. -/
theorem Run.Footprint.bound (footprint : Footprint context allowed targets run) {last : ContextForest} {value : α}
    {diagnostics : List Diagnostic} (ran : run contexts = (last, .ok (value, diagnostics))) :
    targets.Nodup ∧ (∀ symbol ∈ targets, contexts.direct? context symbol = none) ∧
      ∀ symbol, last.direct? context symbol = none → contexts.direct? context symbol = none ∧ symbol ∉ targets := by
  induction footprint generalizing contexts last diagnostics with
  | give given =>
    cases ran
    exact ⟨.nil, by simp, fun symbol free => ⟨free, List.not_mem_nil⟩⟩
  | reading faults =>
    obtain ⟨rfl, -⟩ := reading_eq_ok.1 ran
    exact ⟨.nil, by simp, fun symbol free => ⟨free, List.not_mem_nil⟩⟩
  | define symbol given =>
    obtain ⟨unsealed, free, rfl, -⟩ := define_eq_ok.1 ran
    refine ⟨List.nodup_singleton symbol, fun other member => List.mem_singleton.1 member ▸ free,
      fun other still => ?_⟩
    rw [ContextForest.direct?_extend_self _ _ _ unsealed, Option.or_eq_none_iff] at still
    refine ⟨still.1, fun member => ?_⟩
    cases List.mem_singleton.1 member
    simp at still
  | bind _ _ ih ihNext =>
    obtain ⟨made, middle, _, _, gave, gives, -⟩ := bind_eq_ok.1 ran
    obtain ⟨distinct, free, keeps⟩ := ih gave
    obtain ⟨distinct', free', keeps'⟩ := ihNext made gives
    refine ⟨List.nodup_append'.2 ⟨distinct, distinct', fun symbol early late => ?_⟩, fun symbol member => ?_,
      fun symbol still => ?_⟩
    · exact (keeps symbol (free' symbol late)).2 early
    · rcases List.mem_append.1 member with early | late
      · exact free symbol early
      · exact (keeps symbol (free' symbol late)).1
    · obtain ⟨between, later⟩ := keeps' symbol still
      obtain ⟨first, earlier⟩ := keeps symbol between
      exact ⟨first, fun member => (List.mem_append.1 member).elim earlier later⟩

end Bound

/-- A template that can be evaluated abstractly binds no symbol twice. -/
theorem Template.distinct_of_evaluateAbstract {template : Template} {around : Surroundings} {parent : ContextId}
    {contexts last : ContextForest} {value : Value} {diagnostics : List Diagnostic}
    (evaluated : template.evaluateAbstract around parent contexts = (last, .ok (value, diagnostics))) :
    template.targets.Nodup := by
  unfold evaluateAbstract at evaluated
  rw [Run.newChild_bind] at evaluated
  exact ((template.abstract_footprint around contexts.child).bound evaluated).1

end Circuitry
