import Circuitry.Session

/-!
# Depth of nested calls

A session bounds how deep calls of templates nest, and going deeper is a fault of its own. This module shows
that the bound is nothing but a resource. Whatever a computation comes to at one depth it comes to at every
greater one, unless that was the fault. So a computation either ends, with one answer at all depths that are
great enough, or it goes too deep at every depth.

A host *is kept by* another one if their models are the same and the other one answers each call alike, except
those that go too deep. From hosts this carries over to expressions, statements, blocks and instances, one
lemma for each, and an induction on the depth closes the circle.
-/

set_option autoImplicit false

namespace Circuitry

variable {α β : Type}

/-! ### Computations that are kept -/

/-- The other computation comes to the same, unless this one goes too deep. -/
def Reporting.KeptBy (computation other : Reporting α) : Prop :=
  computation = .error .tooDeep ∨ other = computation

namespace Reporting.KeptBy

protected theorem refl (computation : Reporting α) : computation.KeptBy computation := .inr rfl

protected theorem trans {first second third : Reporting α} (kept : first.KeptBy second)
    (kept' : second.KeptBy third) : first.KeptBy third := by
  rcases kept with deep | same
  · exact .inl deep
  · rcases kept' with deep' | same'
    · exact .inl (same ▸ deep')
    · exact .inr (same'.trans same)

protected theorem bind {first other : Reporting α} {next nextOther : α → Reporting β}
    (kept : first.KeptBy other) (further : ∀ value, (next value).KeptBy (nextOther value)) :
    (first >>= next).KeptBy (other >>= nextOther) := by
  rcases kept with deep | same
  · subst deep
    exact .inl rfl
  · subst same
    rcases other with fault | ⟨value, before⟩
    · exact .inr rfl
    · change KeptBy (andThen _ _) (andThen _ _)
      rcases further value with deep | same
      · refine .inl ?_
        simp only [andThen, deep]
        rfl
      · refine .inr ?_
        simp only [andThen, same]

/-- A result that is kept stays so when it is taken up by a computation that reports. -/
protected theorem lift {result other : Except Fault α} (kept : result = .error .tooDeep ∨ other = result) :
    (liftM result : Reporting α).KeptBy (liftM other) := by
  rcases kept with deep | same
  · subst deep
    exact .inl rfl
  · subst same
    exact .refl _

/-- Two answers that both are none of going too deep are the same if one is kept by the other. -/
theorem eq_of_ne {computation other : Reporting α} (kept : computation.KeptBy other)
    (ends : computation ≠ .error .tooDeep) : other = computation :=
  kept.resolve_left ends

end Reporting.KeptBy

/-- In whatever contexts, the other run does the same, unless this one goes too deep. -/
def Run.KeptBy (run other : Run α) : Prop :=
  ∀ contexts, (run contexts).2 = .error .tooDeep ∨ other contexts = run contexts

namespace Run.KeptBy

protected theorem refl (run : Run α) : run.KeptBy run := fun _ => .inr rfl

protected theorem bind {first other : Run α} {next nextOther : α → Run β} (kept : first.KeptBy other)
    (further : ∀ value, (next value).KeptBy (nextOther value)) :
    (first >>= next).KeptBy (other >>= nextOther) := by
  intro contexts
  change (first.andThen next contexts).2 = _ ∨ other.andThen nextOther contexts = first.andThen next contexts
  unfold andThen
  rcases kept contexts with deep | same
  · rcases ran : first contexts with ⟨middle, result⟩
    rw [ran] at deep
    change result = _ at deep
    subst deep
    exact .inl rfl
  · rw [same]
    rcases first contexts with ⟨middle, fault | ⟨value, before⟩⟩
    · exact .inr rfl
    · simp only
      rcases further value middle with deep | same
      · rcases ran : next value middle with ⟨last, result⟩
        rw [ran] at deep
        change result = _ at deep
        subst deep
        exact .inl rfl
      · rw [same]
        exact .inr rfl

protected theorem reading {computation other : ContextForest → Reporting α}
    (kept : ∀ contexts, (computation contexts).KeptBy (other contexts)) :
    (reading computation).KeptBy (reading other) := by
  intro contexts
  rcases kept contexts with deep | same
  · exact .inl deep
  · exact .inr (congrArg (Prod.mk contexts) same)

end Run.KeptBy

/-! ### Hosts that are kept -/

/-- The other host has the same models, and answers every call alike except those that go too deep here. -/
structure Host.KeptBy (host other : Host) : Prop where
  model : other.model = host.model
  call : ∀ id arguments,
    host.call id arguments = .error .tooDeep ∨ other.call id arguments = host.call id arguments

section Evaluation

variable {host other : Host}

theorem AttributeSource.value?_keptBy (kept : host.KeptBy other) (source : AttributeSource) (payload : Payload)
    (name : String) : source.value? other payload name = source.value? host payload name := by
  cases source with
  | object attributes => rfl
  | model kind => simp only [AttributeSource.value?, kept.model]

theorem AttributeSource.type?_keptBy (kept : host.KeptBy other) (source : AttributeSource) (name : String) :
    source.type? other name = source.type? host name := by
  cases source with
  | object attributes => rfl
  | model kind => simp only [AttributeSource.type?, kept.model]

theorem AttributeSource.names_keptBy (kept : host.KeptBy other) (source : AttributeSource) :
    source.names other = source.names host := by
  cases source with
  | object attributes => rfl
  | model kind => simp only [AttributeSource.names, kept.model]

theorem Ty.callable?_keptBy (kept : host.KeptBy other) (ty : Ty) : ty.callable? other = ty.callable? host := by
  cases ty with
  | model kind => simp only [Ty.callable?, kept.model]
  | _ => rfl

/-- Only a call of a function can go too deep. -/
theorem Callable.call_keptBy (kept : host.KeptBy other) (callable : Callable) (payload : Payload)
    (arguments : List Value) :
    callable.call host payload arguments = .error .tooDeep ∨
      callable.call other payload arguments = callable.call host payload arguments := by
  cases callable with
  | function signature =>
    cases payload with
    | function id => exact kept.call id arguments
    | _ => exact .inr rfl
  | model kind signature =>
    refine .inr ?_
    simp only [Callable.call, kept.model]

namespace Environment

variable (env : Environment) (other : Host)

/-- The same settings and bindings with another host. -/
abbrev hosted : Environment := { env with host := other }

variable {env other} (kept : env.host.KeptBy other)
include kept

theorem access_keptBy (target : Value) (name : String) (span : Span) :
    (env.hosted other).access target name span = env.access target name span := by
  unfold access
  simp only [AttributeSource.type?_keptBy kept, AttributeSource.names_keptBy kept,
    AttributeSource.value?_keptBy kept]

theorem invoke_keptBy (callable : Callable) (callee : Value) (arguments : List Value) (span : Span) :
    (env.invoke callable callee arguments span).KeptBy
      ((env.hosted other).invoke callable callee arguments span) := by
  unfold invoke
  split
  · exact .refl _
  · refine .bind (.refl _) fun resultType => ?_
    cases callee.payload? with
    | none => exact .refl _
    | some payload =>
      simp only
      split
      · exact .refl _
      · have called := callable.call_keptBy kept payload arguments
        exact .bind (.lift called) fun result => .refl _

theorem call_keptBy (callee : Value) (supplied : List Supplied) (calleeSpan span : Span) :
    (env.call callee supplied calleeSpan span).KeptBy
      ((env.hosted other).call callee supplied calleeSpan span) := by
  unfold call
  cases callee.ty? with
  | none => exact .refl _
  | some ty =>
    simp only [Ty.callable?_keptBy kept]
    cases ty.callable? env.host with
    | none => exact .refl _
    | some callable =>
      refine .bind (.refl _) fun bound => ?_
      cases bound with
      | none => exact .refl _
      | some arguments => exact invoke_keptBy kept callable callee arguments span

end Environment

mutual

/-- An expression comes to the same with a host that keeps the answers of the first. -/
theorem Expr.eval_keptBy (env : Environment) {other : Host} (kept : env.host.KeptBy other) :
    ∀ expr : Expr, (expr.eval env).KeptBy (expr.eval (env.hosted other))
  | .literal _ _ => .refl _
  | .symbol _ _ => .refl _
  | .unary _ operand _ => .bind (operand.eval_keptBy env kept) fun _ => .refl _
  | .binary _ left right _ =>
    .bind (left.eval_keptBy env kept) fun _ => .bind (right.eval_keptBy env kept) fun _ => .refl _
  | .call callee arguments span =>
    .bind (callee.eval_keptBy env kept) fun calleeValue =>
      .bind (Argument.evalAll_keptBy env kept arguments) fun supplied =>
        Environment.call_keptBy kept calleeValue supplied callee.span span
  | .access target name span =>
    .bind (target.eval_keptBy env kept) fun value => .inr (Environment.access_keptBy kept value name span)
  | .index target key _ =>
    .bind (target.eval_keptBy env kept) fun _ => .bind (key.eval_keptBy env kept) fun _ => .refl _
termination_by structural expr => expr

theorem Argument.evalAll_keptBy (env : Environment) {other : Host} (kept : env.host.KeptBy other) :
    ∀ arguments : List Argument,
      (Argument.evalAll env arguments).KeptBy (Argument.evalAll (env.hosted other) arguments)
  | [] => .refl _
  | argument :: rest =>
    .bind (argument.eval_keptBy env kept) fun _ => .bind (Argument.evalAll_keptBy env kept rest) fun _ => .refl _
termination_by structural arguments => arguments

theorem Argument.eval_keptBy (env : Environment) {other : Host} (kept : env.host.KeptBy other) :
    ∀ argument : Argument, (argument.eval env).KeptBy (argument.eval (env.hosted other))
  | ⟨_, value, _⟩ => .bind (value.eval_keptBy env kept) fun _ => .refl _
termination_by structural argument => argument

end

end Evaluation

/-! ### Runs -/

section Runs

variable (around : Surroundings) (hostIn : ContextForest → Host)

/-- The same scopes and settings with other hosts. -/
abbrev Surroundings.hosted : Surroundings := { around with hostIn }

variable {hostIn} (kept : ∀ contexts, (around.hostIn contexts).KeptBy (hostIn contexts))
include kept

theorem Expr.run_keptBy (expr : Expr) (context : ContextId) :
    (expr.run around context).KeptBy (expr.run (around.hosted hostIn) context) :=
  .reading fun contexts => expr.eval_keptBy (around.environment contexts context) (kept contexts)

theorem Statement.run_keptBy (context : ContextId) (statement : Statement) :
    (statement.run around context).KeptBy (statement.run (around.hosted hostIn) context) := by
  cases statement with
  | assign symbol expr => exact .bind (expr.run_keptBy around kept context) fun _ => .refl _
  | result expr => exact .bind (expr.run_keptBy around kept context) fun _ => .refl _

theorem Statement.runAll_keptBy (context : ContextId) (statements : List Statement) :
    (Statement.runAll around context statements).KeptBy
      (Statement.runAll (around.hosted hostIn) context statements) := by
  induction statements with
  | nil => exact .refl _
  | cons statement rest ih =>
    exact .bind (statement.run_keptBy around kept context) fun _ => .bind ih fun _ => .refl _

theorem Block.run_keptBy (block : Block) (context : ContextId) :
    (block.run around context).KeptBy (block.run (around.hosted hostIn) context) :=
  .bind (Statement.runAll_keptBy around kept context block.statements) fun _ => .refl _

theorem Template.instantiate_keptBy (template : Template) (parent : ContextId)
    (arguments : List (String × Value)) :
    (template.instantiate around parent arguments).KeptBy
      (template.instantiate (around.hosted hostIn) parent arguments) :=
  .bind (.refl _) fun context => .bind (.refl _) fun _ => .bind (.refl _) fun _ =>
    template.block.run_keptBy around kept context

end Runs

/-! ### Sessions -/

namespace Session

variable (session : Session)

theorem callTemplate_keptBy {hostIn hostIn' : ContextForest → Host}
    (kept : ∀ contexts, (hostIn contexts).KeptBy (hostIn' contexts)) (contexts : ContextForest)
    (template : Template) (parent : ContextId) (arguments : List Value) :
    session.callTemplate hostIn contexts template parent arguments = .error .tooDeep ∨
      session.callTemplate hostIn' contexts template parent arguments =
        session.callTemplate hostIn contexts template parent arguments := by
  have ran := template.instantiate_keptBy ⟨session.scopes, hostIn, .standard⟩ kept parent
    (template.named arguments) contexts
  unfold callTemplate
  rcases ran with deep | same
  · refine .inl ?_
    simp only [deep]
  · refine .inr ?_
    simp only [same]

/-- The host answers a call of a function that a template makes as it is told to. -/
theorem hostWith_template {callTemplate : Template → ContextId → List Value → Except Fault CallResult}
    {id : FunctionId} {template : Template} {parent : ContextId}
    (found : session.functions.get? id.index = some (.template template parent)) (arguments : List Value) :
    (session.hostWith callTemplate).call id arguments = callTemplate template parent arguments := by
  simp only [hostWith, found]

theorem hostWith_keptBy {callTemplate callTemplate' : Template → ContextId → List Value → Except Fault CallResult}
    (kept : ∀ template parent arguments, callTemplate template parent arguments = .error .tooDeep ∨
      callTemplate' template parent arguments = callTemplate template parent arguments) :
    (session.hostWith callTemplate).KeptBy (session.hostWith callTemplate') := by
  refine ⟨rfl, fun id arguments => ?_⟩
  simp only [hostWith]
  cases session.functions.get? id.index with
  | none => exact .inr rfl
  | some body =>
    cases body with
    | builtin builtin => exact .inr rfl
    | callback run => exact .inr rfl
    | template template parent => exact kept template parent arguments

/-- What the host answers at one depth it answers at the next, unless that goes too deep. -/
theorem hostIn_succ (depth : Nat) (contexts : ContextForest) :
    (session.hostIn depth contexts).KeptBy (session.hostIn (depth + 1) contexts) := by
  induction depth generalizing contexts with
  | zero => exact session.hostWith_keptBy fun _ _ _ => .inl rfl
  | succ depth ih => exact session.hostWith_keptBy (session.callTemplate_keptBy ih contexts)

/-- What runs depend on when calls of templates nest at most to a given depth. -/
def surroundingsAt (depth : Nat) (settings : Settings) : Surroundings :=
  ⟨session.scopes, session.hostIn depth, settings⟩

variable (settings : Settings) (context : ContextId)

/-- The value of an expression, as far as a given depth of calls leads to it. -/
def evaluateAt (expr : Expr) (depth : Nat) : Reporting Value :=
  expr.eval ((session.surroundingsAt depth settings).environment session.contexts context)

/-- What a block comes to, as far as a given depth of calls leads to it. -/
def executeAt (block : Block) (depth : Nat) : Reporting Value :=
  (block.run (session.surroundingsAt depth settings) context session.contexts).2

/-- What an instance of a template comes to, as far as a given depth of calls leads to it. -/
def instantiateAt (template : Template) (arguments : List (String × Value)) (depth : Nat) : Reporting Value :=
  (template.instantiate (session.surroundingsAt depth settings) context arguments session.contexts).2

/-! ### Computations that end -/

/-- What a computation comes to, given how deep calls may nest: it goes too deep only where a greater depth is
needed. -/
def Stable (attempt : Nat → Reporting α) : Prop := ∀ depth, (attempt depth).KeptBy (attempt (depth + 1))

/-- A computation ends after calls that nest to some finite depth. -/
def Ends (attempt : Nat → Reporting α) : Prop := ∃ depth, attempt depth ≠ .error .tooDeep

/-- From some depth on a computation comes to one answer, and that is not that calls go too deep. -/
def EndsBy (attempt : Nat → Reporting α) (top : Nat) : Prop :=
  ∃ answer, answer ≠ .error .tooDeep ∧ ∀ depth, top ≤ depth → attempt depth = answer

theorem evaluateAt_stable (expr : Expr) : Stable (session.evaluateAt settings context expr) := fun depth =>
  expr.eval_keptBy ((session.surroundingsAt depth settings).environment session.contexts context)
    (session.hostIn_succ depth session.contexts)

theorem executeAt_stable (block : Block) : Stable (session.executeAt settings context block) := fun depth =>
  (block.run_keptBy (session.surroundingsAt depth settings) (session.hostIn_succ depth) context
    session.contexts).imp_right (congrArg Prod.snd)

theorem instantiateAt_stable (template : Template) (arguments : List (String × Value)) :
    Stable (session.instantiateAt settings context template arguments) := fun depth =>
  (template.instantiate_keptBy (session.surroundingsAt depth settings) (session.hostIn_succ depth)
    context arguments session.contexts).imp_right (congrArg Prod.snd)

/-- A greater depth keeps what was found at a smaller one. -/
theorem Stable.keptBy {attempt : Nat → Reporting α} (stable : Stable attempt) {depth deeper : Nat}
    (le : depth ≤ deeper) : (attempt depth).KeptBy (attempt deeper) := by
  induction le with
  | refl => exact .refl _
  | step _ ih => exact ih.trans (stable _)

theorem Stable.endsBy {attempt : Nat → Reporting α} (stable : Stable attempt) {top : Nat}
    (ends : attempt top ≠ .error .tooDeep) : EndsBy attempt top :=
  ⟨attempt top, ends, fun _ le => (stable.keptBy le).eq_of_ne ends⟩

/-- A computation that ends has one answer, at all depths that are great enough. -/
theorem Stable.ends_iff {attempt : Nat → Reporting α} (stable : Stable attempt) :
    Ends attempt ↔ ∃ enough, EndsBy attempt enough := by
  constructor
  · rintro ⟨enough, ends⟩
    exact ⟨enough, stable.endsBy ends⟩
  · rintro ⟨enough, answer, ends, settled⟩
    refine ⟨enough, ?_⟩
    rw [settled enough (Nat.le_refl enough)]
    exact ends

/-- The depth at which a session stops is nothing but a bound: what it comes to before is settled. -/
theorem evaluate_settled {expr : Expr} (ends : session.evaluate settings context expr ≠ .error .tooDeep) :
    EndsBy (session.evaluateAt settings context expr) maxDepth :=
  (session.evaluateAt_stable settings context expr).endsBy ends

theorem execute_settled {block : Block} (ends : (session.execute settings context block).2 ≠ .error .tooDeep) :
    EndsBy (session.executeAt settings context block) maxDepth :=
  (session.executeAt_stable settings context block).endsBy ends

theorem instantiate_settled {template : Template} {arguments : List (String × Value)}
    (ends : (session.instantiate settings context template arguments).2 ≠ .error .tooDeep) :
    EndsBy (session.instantiateAt settings context template arguments) maxDepth :=
  (session.instantiateAt_stable settings context template arguments).endsBy ends

end Session

end Circuitry
