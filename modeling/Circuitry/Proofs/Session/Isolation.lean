import Circuitry.Proofs.Block.Permutation
import Circuitry.Proofs.Expr.Lawfulness
import Circuitry.Proofs.Session.Depth
import Circuitry.Proofs.Session.Footprint
import Circuitry.Proofs.Session.Operations

/-!
# Instances keep to themselves

An instance never binds a symbol twice: parameters are distinct, a statement that binds a parameter is left out, of
statements that bind the same symbol only the first is scheduled, and the context is fresh. So whatever arguments are
given, its context binds the parameters and the targets of the block, and no other context changes. The functions that
it calls make instances of their own, and those bind no symbol twice either, because a template was evaluated
abstractly before it became a function.
-/

set_option autoImplicit false

namespace Circuitry

/-! ### Instances -/

namespace Template

variable {template : Template} {around : Surroundings}

theorem parameterValue_lawful (template : Template) (parameter : TemplateParameter) (given : Option Value) :
    (template.parameterValue parameter given).Lawful := by
  unfold parameterValue
  split
  · split
    · exact .give _
    · split
      · exact .give _
      · exact .lift_bind (Ty.text_lawful _) fun _ => .lift_bind (Ty.text_lawful _) fun _ => .recover _ _
  · split
    · exact .give _
    · exact .recover _ _

/-- Neither an expression nor an argument breaks a rule. -/
theorem Blames.lawful {arguments : List (String × Value)} {context : ContextId} {fault : Fault}
    (hosts : ∀ contexts, (around.hostIn contexts).Lawful) (blames : template.Blames around arguments context fault) :
    fault.breaksRule = false := by
  cases blames with
  | statement statement _ failed =>
    obtain ⟨contexts, failed⟩ := failed
    exact statement.expr.eval_lawful (hosts contexts) fault failed
  | argument parameter _ argument _ failed => exact template.parameterValue_lawful parameter _ fault failed

/-- What an instance of a template leaves behind when it is made inside a context with some arguments. -/
structure Isolated (template : Template) (around : Surroundings) (parent : ContextId)
    (arguments : List (String × Value)) (contexts : ContextForest) (outcome : ContextForest × Reporting Value) :
    Prop where
  /-- No symbol is bound twice or in a sealed context, here or in a function that is called. -/
  lawful : outcome.2.Lawful
  /-- Only an expression or an argument can be at fault. -/
  blames : ∀ fault, outcome.2 = .error fault → template.Blames around arguments contexts.child fault
  /-- All contexts that were there are as they were. -/
  keeps : contexts.Keeps outcome.1
  /-- One context is new, inside the given one. -/
  single : outcome.1.nodes.size = contexts.nodes.size + 1
  inside : outcome.1.path contexts.child = contexts.child :: contexts.path parent
  /-- It binds nothing but parameters and targets, each once at most. -/
  distinct : template.targets.Nodup
  bounded : (outcome.1.bindings contexts.child).map Prod.fst <+: template.targets
  /-- It binds all of them unless a fault ends the instance. -/
  complete : ∀ value diagnostics, outcome.2 = .ok (value, diagnostics) →
    (outcome.1.bindings contexts.child).map Prod.fst = template.targets

section Instances

variable (parent : ContextId) (arguments : List (String × Value)) (contexts : ContextForest)

/-- If no symbol occurs twice among parameters and targets, an instance is isolated. -/
theorem instantiate_isolated (distinct : template.targets.Nodup)
    (hosts : ∀ contexts, (around.hostIn contexts).Lawful) :
    template.Isolated around parent arguments contexts (template.instantiate around parent arguments contexts) := by
  have footprint := template.instance_footprint around arguments contexts.child
  have takes : (contexts.fresh parent).Takes contexts.child template.targets :=
    ⟨ContextForest.isSealed_fresh, distinct, fun symbol _ => ContextForest.direct?_fresh_child symbol⟩
  have blames : ∀ fault, (template.instantiate around parent arguments contexts).2 = .error fault →
      template.Blames around arguments contexts.child fault := by
    rw [instantiate_eq]
    exact fun fault failed => footprint.blames takes failed
  obtain ⟨added, extended, within, complete⟩ := footprint.leaves (contexts.fresh parent)
  rw [← instantiate_eq] at extended complete
  have bindings : ((contexts.fresh parent).extend contexts.child added).bindings contexts.child = added := by
    rw [ContextForest.bindings_extend_self _ _ _ ContextForest.isSealed_fresh]
    simp [ContextForest.bindings, ContextForest.node?_fresh]
  refine ⟨fun fault failed => (blames fault failed).lawful hosts, blames, ?_, ?_, ?_, distinct, ?_,
    fun value diagnostics gave => ?_⟩
  · rw [extended]
    exact ContextForest.keeps_fresh added
  · rw [extended, ContextForest.size_extend, ContextForest.size_fresh]
  · rw [extended, ContextForest.path_extend, ContextForest.path_fresh_child]
  · rw [extended, bindings]
    exact within
  · rw [extended, bindings]
    exact complete value diagnostics gave

end Instances

/-- A template of statements binds no symbol twice if its parameters are distinct. -/
theorem nodup_targets (name : String) (scope : ScopeId) {parameters : List TemplateParameter}
    (distinct : (parameters.map TemplateParameter.symbol).Nodup) (statements : List Statement) :
    (ofStatements name scope parameters statements).1.targets.Nodup := by
  have targets : ((ofStatements name scope parameters statements).1.block.statements.filterMap
      Statement.target?).Nodup := by
    have listed : ((ofStatements name scope parameters statements).1.block.statements.map Statement.target?).Nodup :=
      Schedule.nodup_targets_schedule
    have assigned := listed.filterMap (f := id) fun first second symbol is same =>
      (Option.mem_def.1 is).trans (Option.mem_def.1 same).symm
    rwa [List.filterMap_map] at assigned
  refine List.nodup_append'.2 ⟨distinct, targets, fun symbol parameter target => ?_⟩
  obtain ⟨statement, scheduled, is⟩ := List.mem_filterMap.1 target
  obtain ⟨declared, member, rfl⟩ := List.mem_map.1 parameter
  have kept := (List.mem_filter.1 (mem_of_mem_schedule scheduled)).2
  have free : ∀ parameter ∈ parameters, parameter.symbol ≠ declared.symbol := by
    simpa [redefinition?, is] using kept
  exact free declared member rfl

end Template

/-! ### Sessions -/

namespace Session

/-- No template that became a function binds a symbol twice. -/
def Distinct (session : Session) : Prop :=
  ∀ number template parent, session.functions.get? number = some (.template template parent) →
    template.targets.Nodup

variable {session : Session}

/-- A template becomes a function only after it was evaluated abstractly. -/
theorem Distinct.newFunction (distinct : session.Distinct) (parent : ContextId) (template : Template) :
    (session.templateFunction parent template).1.Distinct := by
  rcases ran : template.evaluateAbstract (session.surroundings .standard) parent session.contexts with
    ⟨contexts, result⟩
  have evaluated : session.evaluateAbstract parent template = ({ session with contexts }, result) := by
    simp only [Session.evaluateAbstract, perform, ran]
  unfold templateFunction
  rw [evaluated]
  rcases result with fault | ⟨value, diagnostics⟩
  · exact distinct
  · simp only
    cases value.ty? with
    | none => exact distinct
    | some ty =>
      intro number other around found
      rw [get?_newFunction] at found
      split at found
      · cases found
        exact Template.distinct_of_evaluateAbstract ran
      · exact distinct number other around found

/-- No operation makes a function of a template that binds a symbol twice. -/
theorem Distinct.apply (distinct : session.Distinct) (operation : Operation) : (operation.apply session).Distinct := by
  cases operation with
  | newScope parent | newContext parent | newModel name description | newObject attributes => exact distinct
  | execute settings context block => exact distinct
  | instantiate settings parent template arguments => exact distinct
  | declare scope name =>
    simp only [Operation.apply, Session.declare]
    cases session.scopes.declare scope name with
    | error error => exact distinct
    | ok made => exact distinct
  | define context symbol value =>
    simp only [Operation.apply, Session.define]
    cases session.contexts.define context symbol value with
    | error error => exact distinct
    | ok later => exact distinct
  | newCallback run =>
    intro number template parent found
    simp only [Operation.apply, get?_newFunction] at found
    split at found
    · cases found
    · exact distinct number template parent found
  | newFunction parent template => exact distinct.newFunction parent template

theorem Distinct.applyAll (distinct : session.Distinct) (operations : List Operation) :
    (operations.foldl Operation.apply session).Distinct := by
  induction operations generalizing session with
  | nil => exact distinct
  | cons operation rest ih => exact ih (distinct.apply operation)

theorem after_distinct (operations : List Operation) : (Session.after operations).Distinct :=
  Distinct.applyAll (fun _ _ _ found => absurd found start_no_template) operations

/-- A call of a template as a function passes on the faults of the instance that it makes. -/
theorem callTemplate_lawful {hostIn : ContextForest → Host} (hosts : ∀ contexts, (hostIn contexts).Lawful)
    (contexts : ContextForest) {template : Template} (distinct : template.targets.Nodup) (parent : ContextId)
    (arguments : List Value) : Lawful (session.callTemplate hostIn contexts template parent arguments) := by
  have isolated : template.Isolated ⟨session.scopes, hostIn, .standard⟩ parent (template.named arguments) contexts
      (template.instantiate ⟨session.scopes, hostIn, .standard⟩ parent (template.named arguments) contexts) :=
    Template.instantiate_isolated parent (template.named arguments) contexts distinct hosts
  unfold callTemplate
  simp only
  split
  · rename_i fault failed
    exact .error (isolated.lawful fault failed)
  · exact .ok _

/-- However deep calls nest, none ends in a fault that breaks a rule. -/
theorem Distinct.hostIn_lawful (distinct : session.Distinct) (depth : Nat) (contexts : ContextForest) :
    (session.hostIn depth contexts).Lawful := by
  have answers {callTemplate : Template → ContextId → List Value → Except Fault CallResult}
      (lawful : ∀ template parent arguments, template.targets.Nodup →
        Lawful (callTemplate template parent arguments)) :
      (session.hostWith callTemplate).Lawful := by
    intro id arguments
    simp only [hostWith]
    split
    · exact .ok _
    · exact .ok _
    · rename_i template parent found
      exact lawful template parent arguments (distinct id.index template parent found)
    · exact .ok _
  induction depth generalizing contexts with
  | zero => exact answers fun _ _ _ _ => .error rfl
  | succ depth ih =>
    exact answers fun template parent arguments nodup => callTemplate_lawful ih contexts nodup parent arguments

/-- Whatever operations led to a session, and however deep calls may nest in it: an instance of a template of
statements, inside any context and with any arguments, is isolated as soon as the parameters are distinct. -/
theorem instance_isolated (operations : List Operation) (depth : Nat) (settings : Settings) (name : String)
    (scope : ScopeId) {parameters : List TemplateParameter}
    (distinct : (parameters.map TemplateParameter.symbol).Nodup) (statements : List Statement) (parent : ContextId)
    (arguments : List (String × Value)) :
    let session := Session.after operations
    let template := (Template.ofStatements name scope parameters statements).1
    let around := session.surroundingsAt depth settings
    template.Isolated around parent arguments session.contexts
      (template.instantiate around parent arguments session.contexts) :=
  Template.instantiate_isolated parent arguments _ (Template.nodup_targets name scope distinct statements)
    ((after_distinct operations).hostIn_lawful depth)

end Session

namespace Doubled

def input : Symbol := ⟨18, "input", ⟨1⟩⟩

def output : Symbol := ⟨19, "output", ⟨1⟩⟩

def place : Span := .atStart 0

def one : Value := .ofQuantity (.ofNumber 1)

def operations : List Operation :=
  [.newScope Session.rootScope, .declare ⟨1⟩ "input", .declare ⟨1⟩ "output", .newContext (some Session.rootContext)]

def parameters : List TemplateParameter := [⟨input, .plainNumber, none⟩]

/-- The second statement binds what the first one does, the last one binds a parameter. -/
def statements : List Statement :=
  [.assign output (.symbol input place), .assign output (.literal one place), .assign input (.literal one place)]

end Doubled

/-- Symbols that statements bind twice, and an argument that is given twice, are bound once. -/
theorem Session.doubled_isolated :
    let session := Session.after Doubled.operations
    let template := (Template.ofStatements "doubled" ⟨1⟩ Doubled.parameters Doubled.statements).1
    let around := session.surroundingsAt 0 .standard
    let arguments := [("input", Doubled.one), ("input", Doubled.one), ("other", Doubled.one)]
    let outcome := template.instantiate around ⟨1⟩ arguments session.contexts
    (Doubled.parameters.map TemplateParameter.symbol).Nodup ∧
      template.Isolated around ⟨1⟩ arguments session.contexts outcome ∧
      outcome.1.bindings ⟨2⟩ = [(Doubled.input, Doubled.one), (Doubled.output, Doubled.one)] :=
  ⟨by decide, instance_isolated Doubled.operations 0 .standard "doubled" ⟨1⟩ (by decide) Doubled.statements ⟨1⟩ _, rfl⟩

end Circuitry
