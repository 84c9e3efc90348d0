import Circuitry.Proofs.Session.Footprint
import Circuitry.Proofs.Session.Operations

/-!
# What parameters are bound to

An instance binds its parameters first and in order: each to the first argument that names it or, without one, to its
default or an unknown. Arguments of another type are replaced, but defaults are bound as they are. So a parameter that
is bound has its type or is lost, unless it is left to a default of another type.
-/

set_option autoImplicit false

namespace Circuitry

/-- A value is of the type of a parameter, or has no type. A type need not be the same as itself where it names an
attribute twice, but a value of that very type is one of it all the same. -/
def TemplateParameter.Typed (parameter : TemplateParameter) (value : Value) : Prop :=
  ∀ ty, value.ty? = some ty → ty = parameter.ty ∨ ty.same parameter.ty = true

/-- The default is such a value, if there is one. -/
def TemplateParameter.DefaultTyped (parameter : TemplateParameter) : Prop :=
  ∀ value, parameter.fallback = some value → parameter.Typed value

/-- No argument names the parameter at a position. -/
def Template.Omits (template : Template) (arguments : List (String × Value)) (index : Nat) : Prop :=
  ∀ argument ∈ arguments, template.position? argument.1 ≠ some index

namespace Template

variable {template : Template} {settings : Settings}

/-! ### Arguments that are left out -/

section Omitting

variable {given next : Given} {index : Nat} {diagnostics : List Diagnostic}

/-- Taking one argument gives something for the parameter that it names, and for no other. -/
theorem take_lookup_eq_none {argument : String × Value}
    (taken : template.take settings given argument = .ok (next, diagnostics)) :
    next.lookup index = none ↔ given.lookup index = none ∧ template.position? argument.1 ≠ some index := by
  obtain ⟨name, value⟩ := argument
  unfold take at taken
  simp only [position?]
  cases found : template.parameters.findIdx? fun parameter => parameter.name = name with
  | none =>
    simp only [found] at taken
    cases taken
    simp
  | some position =>
    simp only [found] at taken
    split at taken
    · rename_i repeated
      cases taken
      by_cases same : position = index
      · subst same
        simp [Option.isSome_iff_ne_none.1 repeated]
      · simp [same]
    · cases taken
      rw [List.lookup_append, Option.or_eq_none_iff, List.lookup_cons]
      by_cases same : position = index
      · simp [same]
      · simp [same, beq_false_of_ne (Ne.symm same)]

theorem foldlM_take_lookup_eq_none {arguments : List (String × Value)}
    (taken : arguments.foldlM (template.take settings) given = .ok (next, diagnostics)) :
    next.lookup index = none ↔ given.lookup index = none ∧ template.Omits arguments index := by
  induction arguments generalizing given diagnostics with
  | nil =>
    cases taken
    simp [Omits]
  | cons argument rest ih =>
    rw [List.foldlM_cons] at taken
    obtain ⟨between, before, after, first, others, -⟩ := Reporting.bind_eq_ok.1 taken
    rw [ih others, take_lookup_eq_none first, and_assoc]
    simp [Omits]

/-- Of all arguments, nothing is taken for a parameter exactly if none names it. -/
theorem takeAll_lookup_eq_none {arguments : List (String × Value)}
    (taken : template.takeAll settings arguments = .ok (given, diagnostics)) :
    given.lookup index = none ↔ template.Omits arguments index :=
  (foldlM_take_lookup_eq_none taken).trans (and_iff_right rfl)

end Omitting

/-! ### Values -/

/-- The value of a parameter has its type or none, unless it is a default that has another. -/
theorem parameterValue_typed_iff {parameter : TemplateParameter} {given : Option Value} {value : Value}
    {diagnostics : List Diagnostic}
    (made : template.parameterValue parameter given = .ok (value, diagnostics)) :
    parameter.Typed value ↔ (given = none → parameter.DefaultTyped) := by
  unfold parameterValue at made
  cases given with
  | none =>
    simp only [true_implies]
    cases fallback : parameter.fallback with
    | none =>
      simp only [fallback] at made
      cases made
      refine iff_of_true (fun ty is => .inl (Option.some.inj is).symm) fun value is => ?_
      cases fallback.symm.trans is
    | some default =>
      simp only [fallback] at made
      cases made
      simp [TemplateParameter.DefaultTyped, fallback]
  | some argument =>
    refine iff_of_true ?_ nofun
    simp only at made
    cases has : argument.ty? with
    | none =>
      simp only [has] at made
      cases made
      intro ty is
      cases has.symm.trans is
    | some ty =>
      simp only [has] at made
      split at made
      · rename_i same
        cases made
        intro found is
        cases has.symm.trans is
        exact .inr same
      · obtain ⟨expected, _, _, -, made, -⟩ := Reporting.bind_eq_ok.1 made
        obtain ⟨found, _, _, -, made, -⟩ := Reporting.bind_eq_ok.1 made
        cases made
        exact nofun

/-! ### Bindings -/

section Bindings

variable {context : ContextId} {given : Given} {contexts : ContextForest}

/-- Bindings of some parameters, from the first one on, to what is made of that which is given for each. -/
def Assigns (template : Template) (given : Given) (index : Nat) (parameters : List TemplateParameter)
    (added : List (Symbol × Value)) : Prop :=
  ∀ (offset : Nat) (binding : Symbol × Value), added[offset]? = some binding →
    ∃ parameter diagnostics, parameters[offset]? = some parameter ∧ binding.1 = parameter.symbol ∧
      template.parameterValue parameter (given.lookup (index + offset)) = .ok (binding.2, diagnostics)

theorem Assigns.cons {index : Nat} {parameter : TemplateParameter} {rest : List TemplateParameter} {value : Value}
    {diagnostics : List Diagnostic} {added : List (Symbol × Value)}
    (made : template.parameterValue parameter (given.lookup index) = .ok (value, diagnostics))
    (assigns : template.Assigns given (index + 1) rest added) :
    template.Assigns given index (parameter :: rest) ((parameter.symbol, value) :: added) := by
  intro offset binding found
  cases offset with
  | zero =>
    cases found
    exact ⟨parameter, diagnostics, rfl, rfl, made⟩
  | succ offset =>
    rw [← Nat.add_assoc, Nat.add_right_comm]
    exact assigns offset binding found

/-- Binding one parameter more fails at once, or binds it and goes on with the others. -/
theorem bindFrom_cons_cases (template : Template) (context : ContextId) (given : Given) (index : Nat)
    (parameter : TemplateParameter) (rest : List TemplateParameter) (contexts : ContextForest) :
    (∃ fault, template.bindFrom context given index (parameter :: rest) contexts = (contexts, .error fault)) ∨
      ∃ value diagnostics, template.parameterValue parameter (given.lookup index) = .ok (value, diagnostics) ∧
        contexts.isSealed context = false ∧ contexts.direct? context parameter.symbol = none ∧
        (template.bindFrom context given index (parameter :: rest) contexts).1 =
          (template.bindFrom context given (index + 1) rest
            (contexts.extend context [(parameter.symbol, value)])).1 := by
  let define (value : Value) : Run PUnit := Run.define context parameter.symbol value
  let further : Run PUnit := template.bindFrom context given (index + 1) rest
  have parts : template.bindFrom context given index (parameter :: rest) =
      ((liftM (template.parameterValue parameter (given.lookup index)) : Run Value) >>= fun value =>
        define value >>= fun _ => further) := rfl
  rw [parts]
  cases made : template.parameterValue parameter (given.lookup index) with
  | error fault => exact .inl ⟨fault, Run.bind_eq_error.2 (.inl rfl)⟩
  | ok result =>
    obtain ⟨value, diagnostics⟩ := result
    have lifted : (liftM (Except.ok (value, diagnostics) : Reporting Value) : Run Value) contexts =
        (contexts, .ok (value, diagnostics)) := Run.lift_eq_ok.2 ⟨rfl, rfl⟩
    cases defined : contexts.define context parameter.symbol value with
    | error error =>
      have failed : define value contexts = (contexts, .error (.context error)) := by
        simp [define, Run.define, defined]
      exact .inl ⟨_, Run.bind_eq_error.2 (.inr ⟨_, _, _, lifted, Run.bind_eq_error.2 (.inl failed)⟩)⟩
    | ok extended =>
      obtain ⟨unsealed, free, rfl⟩ := ContextForest.define_eq_ok.1 defined
      have bound : define value contexts = (contexts.extend context [(parameter.symbol, value)], .ok (⟨⟩, [])) :=
        Run.define_eq_ok.2 ⟨unsealed, free, rfl, rfl⟩
      exact .inr ⟨value, diagnostics, rfl, unsealed, free,
        (Run.bind_fst_of_ok lifted).trans (Run.bind_fst_of_ok bound)⟩

variable (template context given) in
/-- However it ends, binding parameters binds the first ones, and all of them if no fault ends it. -/
theorem bindFrom_leaves (index : Nat) (parameters : List TemplateParameter) (contexts : ContextForest) :
    ∃ added, (template.bindFrom context given index parameters contexts).1 = contexts.extend context added ∧
      template.Assigns given index parameters added ∧
      (∀ binding ∈ added, (contexts.extend context added).direct? context binding.1 = some binding.2) ∧
      ∀ diagnostics, (template.bindFrom context given index parameters contexts).2 = .ok (⟨⟩, diagnostics) →
        added.length = parameters.length := by
  induction parameters generalizing index contexts with
  | nil => exact ⟨[], (ContextForest.extend_nil ..).symm, nofun, nofun, fun _ _ => rfl⟩
  | cons parameter rest ih =>
    rcases template.bindFrom_cons_cases context given index parameter rest contexts with
      ⟨fault, failed⟩ | ⟨value, reported, made, unsealed, free, same⟩
    · rw [failed]
      exact ⟨[], (ContextForest.extend_nil ..).symm, nofun, nofun, nofun⟩
    · obtain ⟨added, extended, assigns, found, complete⟩ :=
        ih (index + 1) (contexts.extend context [(parameter.symbol, value)])
      rw [ContextForest.extend_extend, List.singleton_append] at extended found
      refine ⟨(parameter.symbol, value) :: added, same.trans extended, assigns.cons made, ?_,
        fun diagnostics gave => ?_⟩
      · intro binding member
        rcases List.mem_cons.1 member with rfl | later
        · rw [ContextForest.direct?_extend_self _ _ _ unsealed, free, List.lookup_cons_self, Option.none_or]
        · exact found binding later
      · obtain ⟨value', before, after, made', -, -, others, -⟩ := bindFrom_cons_eq_ok.1 (Prod.ext rfl gave)
        cases made.symm.trans made'
        rw [List.length_cons, List.length_cons, complete after (congrArg Prod.snd others)]

end Bindings

/-! ### Instances -/

/-- Those of an instance come first. If they are not all bound, then a fault has ended it there. -/
theorem instantiate_leaves (template : Template) (around : Surroundings) (parent : ContextId)
    (arguments : List (String × Value)) (contexts : ContextForest) :
    ∃ given diagnostics added more, template.takeAll around.settings arguments = .ok (given, diagnostics) ∧
      (template.instantiate around parent arguments contexts).1 =
        (contexts.fresh parent).extend contexts.child (added ++ more) ∧
      template.Assigns given 0 template.parameters added ∧
      (∀ binding ∈ added, added.lookup binding.1 = some binding.2) ∧
      (added.length = template.parameters.length ∨ more = [] ∧
        ∃ fault, (template.instantiate around parent arguments contexts).2 = .error fault) := by
  have gives : Reporting.Gives (fun given => ∀ index value, given.lookup index = some value → True)
      (template.takeAll around.settings arguments) := template.takeAll_gives_of_forall _ fun _ _ => trivial
  obtain ⟨given, reported, took, -⟩ := gives
  refine ⟨given, reported, ?_⟩
  have lifted : (liftM (template.takeAll around.settings arguments) : Run Given) (contexts.fresh parent) =
      (contexts.fresh parent, .ok (given, reported)) := Run.lift_eq_ok.2 ⟨rfl, took⟩
  let further : Run Value :=
    template.bindFrom contexts.child given 0 template.parameters >>= fun _ => template.block.run around contexts.child
  have parts : template.runIn around arguments contexts.child =
      ((liftM (template.takeAll around.settings arguments) : Run Given) >>= fun given =>
        template.bindFrom contexts.child given 0 template.parameters >>= fun _ =>
          template.block.run around contexts.child) := rfl
  obtain ⟨added, extended, assigns, found, complete⟩ :=
    template.bindFrom_leaves contexts.child given 0 template.parameters (contexts.fresh parent)
  have lookups : ∀ binding ∈ added, added.lookup binding.1 = some binding.2 := by
    intro binding member
    have direct := found binding member
    rwa [ContextForest.direct?_fresh, if_pos rfl] at direct
  rw [instantiate_eq, parts, Run.bind_fst_of_ok lifted]
  rcases ran : template.bindFrom contexts.child given 0 template.parameters (contexts.fresh parent) with
    ⟨left, fault | ⟨_, bound⟩⟩
  · rw [ran] at extended
    have failed : further (contexts.fresh parent) = (left, .error fault) := Run.bind_eq_error.2 (.inl ran)
    refine ⟨added, [], took, ?_, assigns, lookups, .inr ⟨rfl, fault, ?_⟩⟩
    · rw [List.append_nil, ← extended]
      exact congrArg Prod.fst failed
    · exact congrArg Prod.snd (Run.bind_eq_error.2 (.inr ⟨_, _, _, lifted, failed⟩))
  · rw [ran] at extended complete
    obtain rfl : left = (contexts.fresh parent).extend contexts.child added := extended
    have footprint : Run.Footprint contexts.child (fun _ => True) _ (template.block.run around contexts.child) :=
      template.block.run_footprint fun _ _ _ _ => trivial
    obtain ⟨more, extended', -⟩ := footprint.leaves ((contexts.fresh parent).extend contexts.child added)
    refine ⟨added, more, took, ?_, assigns, lookups, .inl (complete bound rfl)⟩
    rw [Run.bind_fst_of_ok ran, extended', ContextForest.extend_extend]

/-- However an instance ends, and for all arguments: each of its parameters that is bound has its type, or is lost,
exactly if it is not left to a default of another type. -/
theorem instantiate_typed_iff (template : Template) (around : Surroundings) (parent : ContextId)
    (arguments : List (String × Value)) (contexts : ContextForest) :
    let after := template.instantiate around parent arguments contexts
    (∀ result, after.2 = .ok result → template.parameters.length ≤ (after.1.bindings contexts.child).length) ∧
      ∀ (index : Nat) (parameter : TemplateParameter) (binding : Symbol × Value),
        template.parameters[index]? = some parameter → (after.1.bindings contexts.child)[index]? = some binding →
          binding.1 = parameter.symbol ∧ after.1.direct? contexts.child parameter.symbol = some binding.2 ∧
            (parameter.Typed binding.2 ↔ (template.Omits arguments index → parameter.DefaultTyped)) := by
  intro after
  obtain ⟨given, diagnostics, added, more, took, left, assigns, lookups, complete⟩ :=
    template.instantiate_leaves around parent arguments contexts
  have bindings : after.1.bindings contexts.child = added ++ more := by
    rw [left, ContextForest.bindings_extend_self _ _ _ ContextForest.isSealed_fresh]
    simp [ContextForest.bindings, ContextForest.node?_fresh]
  refine ⟨fun result gave => ?_, fun index parameter binding declared found => ?_⟩
  · rcases complete with all | ⟨-, fault, failed⟩
    · rw [bindings, List.length_append, all]
      exact Nat.le_add_right ..
    · cases gave.symm.trans failed
  · have early : added[index]? = some binding := by
      rw [bindings] at found
      rcases complete with all | ⟨rfl, -⟩
      · rwa [List.getElem?_append_left (by rw [all]; exact (List.getElem?_eq_some_iff.1 declared).1)] at found
      · rwa [List.append_nil] at found
    obtain ⟨parameter', reported, declared', symbol, made⟩ := assigns index binding early
    cases declared.symm.trans declared'
    refine ⟨symbol, ?_, ?_⟩
    · rw [left, ContextForest.direct?_fresh, if_pos rfl, ← symbol, List.lookup_append,
        lookups binding (List.mem_of_getElem? early), Option.some_or]
    · rw [parameterValue_typed_iff made, Nat.zero_add, takeAll_lookup_eq_none took]

end Template

namespace Mistyped

def x : Symbol := ⟨18, "x", ⟨1⟩⟩

def one : Value := .ofQuantity (.ofNumber 1)

/-- A switch whose default is no switch. -/
def parameter : TemplateParameter := ⟨x, .bool, some one⟩

/-- Gives its parameter back. -/
def template : Template := (Template.ofStatements "same" ⟨1⟩ [parameter] [.result (.symbol x (.atStart 0))]).1

def session : Session := Session.after [.newScope Session.rootScope, .declare ⟨1⟩ "x"]

end Mistyped

/-- Without arguments, a template binds its parameter to a default of another type and reports nothing. -/
theorem Session.mistyped_default :
    let after := Mistyped.session.instantiate .standard Session.rootContext Mistyped.template []
    after.1.contexts.direct? Mistyped.session.contexts.child Mistyped.x = some Mistyped.one ∧
      after.2 = .ok (Mistyped.one, []) ∧ ¬ Mistyped.parameter.Typed Mistyped.one := by
  refine ⟨rfl, rfl, fun typed => ?_⟩
  rcases typed _ rfl with same | same
  · cases same
  · cases same

end Circuitry
