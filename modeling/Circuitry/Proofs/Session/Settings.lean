import Circuitry.Proofs.Report.Notes
import Circuitry.Session

/-!
# Settings

Settings decide which names a diagnostic suggests and how values are shown, so they have a part in nothing but
notes. Whatever is evaluated, run or instantiated under two settings comes to the same value, or ends in the same
fault, leaves the same contexts behind, and reports the same diagnostics but for their notes. The argument
follows the evaluator: only the binding of named arguments, the access to an unknown attribute and the naming of
a template's parameters look at settings, and each of them does so for a note.
-/

set_option autoImplicit false

namespace Circuitry

/-- Suggesting names does no more to a diagnostic than to add a note. -/
@[simp] theorem Settings.withoutNotes_suggest (settings : Settings) (diagnostic : Diagnostic) (name : String)
    (candidates : List String) :
    (settings.suggest diagnostic name candidates).withoutNotes = diagnostic.withoutNotes := by
  unfold Settings.suggest
  split
  · rfl
  · rfl

/-! ### Binding arguments -/

namespace Filling

theorem placeNamed_settings (settings other : Settings) (signature : Signature) (filling : Filling)
    (name : String) (filler : Filler) :
    (filling.placeNamed settings signature name filler).withoutNotes =
      (filling.placeNamed other signature name filler).withoutNotes := by
  unfold placeNamed
  cases signature.index? name with
  | none => simp
  | some index => rfl

theorem place_settings (settings other : Settings) (signature : Signature) (filling : Filling)
    (supplied : Supplied) :
    (filling.place settings signature supplied).withoutNotes =
      (filling.place other signature supplied).withoutNotes := by
  unfold place
  cases supplied.name with
  | none => rfl
  | some name => exact placeNamed_settings settings other signature filling name _

end Filling

theorem Signature.bind_settings (signature : Signature) (settings other : Settings) (supplied : List Supplied)
    (span : Span) :
    (signature.bind settings supplied span).withoutNotes =
      (signature.bind other supplied span).withoutNotes := by
  apply Reporting.withoutNotes_ifSilent_congr
  have placed : (supplied.foldlM (Filling.place settings signature)
        (Filling.start signature.parameters)).withoutNotes =
      (supplied.foldlM (Filling.place other signature) (Filling.start signature.parameters)).withoutNotes :=
    Reporting.withoutNotes_foldlM_congr
      (fun filling argument => Filling.place_settings settings other signature filling argument) supplied _
  exact Reporting.withoutNotes_bind_congr placed fun _ => rfl

/-! ### Expressions -/

namespace Environment

/-- The same bindings and the same host under other settings. -/
abbrev under (env : Environment) (settings : Settings) : Environment := { env with settings }

variable (env : Environment) (settings other : Settings)

theorem access_settings (target : Value) (name : String) (span : Span) :
    ((env.under settings).access target name span).withoutNotes =
      ((env.under other).access target name span).withoutNotes := by
  unfold access
  cases target.ty? with
  | none => rfl
  | some ty =>
    simp only
    cases ty.attributes? with
    | none => rfl
    | some source =>
      simp only
      cases source.type? env.host name with
      | some found => rfl
      | none =>
        refine Reporting.withoutNotes_bind_congr rfl fun text => ?_
        simp only [Reporting.withoutNotes_recover, Settings.withoutNotes_suggest]

theorem call_settings (callee : Value) (supplied : List Supplied) (calleeSpan span : Span) :
    ((env.under settings).call callee supplied calleeSpan span).withoutNotes =
      ((env.under other).call callee supplied calleeSpan span).withoutNotes := by
  unfold call
  cases callee.ty? with
  | none => rfl
  | some ty =>
    simp only
    cases ty.callable? env.host with
    | none => rfl
    | some callable =>
      exact Reporting.withoutNotes_bind_congr
        (callable.signature.bind_settings settings other supplied span) fun bound => rfl

end Environment

mutual

/-- Under other settings an expression comes to the same value and reports the same but for notes. -/
theorem Expr.eval_settings (env : Environment) (settings other : Settings) :
    ∀ expr : Expr, (expr.eval (env.under settings)).withoutNotes = (expr.eval (env.under other)).withoutNotes
  | .literal _ _ => rfl
  | .symbol _ _ => rfl
  | .unary _ operand _ => by
    have operands := operand.eval_settings env settings other
    exact Reporting.withoutNotes_bind_congr operands fun _ => rfl
  | .binary _ left right _ => by
    have lefts := left.eval_settings env settings other
    have rights := right.eval_settings env settings other
    exact Reporting.withoutNotes_bind_congr lefts fun _ =>
      Reporting.withoutNotes_bind_congr rights fun _ => rfl
  | .call callee arguments span => by
    have callees := callee.eval_settings env settings other
    have supplied := Argument.evalAll_settings env settings other arguments
    exact Reporting.withoutNotes_bind_congr callees fun value =>
      Reporting.withoutNotes_bind_congr supplied fun values =>
        env.call_settings settings other value values callee.span span
  | .access target name span => by
    have targets := target.eval_settings env settings other
    exact Reporting.withoutNotes_bind_congr targets fun value =>
      env.access_settings settings other value name span
  | .index target key _ => by
    have targets := target.eval_settings env settings other
    have keys := key.eval_settings env settings other
    exact Reporting.withoutNotes_bind_congr targets fun _ =>
      Reporting.withoutNotes_bind_congr keys fun _ => rfl
termination_by structural expr => expr

theorem Argument.evalAll_settings (env : Environment) (settings other : Settings) :
    ∀ arguments : List Argument, (Argument.evalAll (env.under settings) arguments).withoutNotes =
      (Argument.evalAll (env.under other) arguments).withoutNotes
  | [] => rfl
  | argument :: rest => by
    have first := argument.eval_settings env settings other
    have others := Argument.evalAll_settings env settings other rest
    exact Reporting.withoutNotes_bind_congr first fun _ =>
      Reporting.withoutNotes_bind_congr others fun _ => rfl
termination_by structural arguments => arguments

theorem Argument.eval_settings (env : Environment) (settings other : Settings) :
    ∀ argument : Argument,
      (argument.eval (env.under settings)).withoutNotes = (argument.eval (env.under other)).withoutNotes
  | ⟨_, value, _⟩ => Reporting.withoutNotes_bind_congr (value.eval_settings env settings other) fun _ => rfl
termination_by structural argument => argument

end

/-! ### Blocks and templates -/

/-- The same scopes and the same host under other settings. -/
abbrev Surroundings.under (around : Surroundings) (settings : Settings) : Surroundings :=
  { around with settings }

section Runs

variable (around : Surroundings) (settings other : Settings) (context : ContextId)

theorem Expr.run_settings (expr : Expr) :
    (expr.run (around.under settings) context).withoutNotes =
      (expr.run (around.under other) context).withoutNotes := by
  unfold Expr.run
  rw [Run.withoutNotes_reading, Run.withoutNotes_reading]
  refine congrArg Run.reading (funext fun contexts => ?_)
  exact expr.eval_settings ((around.under settings).environment contexts context) settings other

theorem Statement.run_settings (statement : Statement) :
    (statement.run (around.under settings) context).withoutNotes =
      (statement.run (around.under other) context).withoutNotes := by
  cases statement with
  | assign symbol expr =>
    exact Run.withoutNotes_bind_congr (expr.run_settings around settings other context) fun _ => rfl
  | result expr =>
    exact Run.withoutNotes_bind_congr (expr.run_settings around settings other context) fun _ => rfl

theorem Statement.runAll_settings (statements : List Statement) :
    (Statement.runAll (around.under settings) context statements).withoutNotes =
      (Statement.runAll (around.under other) context statements).withoutNotes := by
  induction statements with
  | nil => rfl
  | cons statement rest ih =>
    have first := statement.run_settings around settings other context
    exact Run.withoutNotes_bind_congr first fun _ => Run.withoutNotes_bind_congr ih fun _ => rfl

theorem Block.run_settings (block : Block) :
    (block.run (around.under settings) context).withoutNotes =
      (block.run (around.under other) context).withoutNotes :=
  Run.withoutNotes_bind_congr (Statement.runAll_settings around settings other context block.statements)
    fun _ => rfl

end Runs

namespace Template

variable (template : Template) (settings other : Settings)

theorem take_settings (given : Given) (argument : String × Value) :
    (template.take settings given argument).withoutNotes =
      (template.take other given argument).withoutNotes := by
  obtain ⟨name, value⟩ := argument
  unfold take
  simp only
  cases template.parameters.findIdx? fun parameter => parameter.name = name with
  | some index => rfl
  | none =>
    -- an unknown name is reported whatever is close to it; what is close goes into a note
    simp only [Reporting.withoutNotes_recover]
    refine congrArg (Reporting.recover · given) ?_
    cases settings.closest name (template.parameters.map TemplateParameter.name) <;>
      cases other.closest name (template.parameters.map TemplateParameter.name) <;> rfl

theorem takeAll_settings (arguments : List (String × Value)) :
    (template.takeAll settings arguments).withoutNotes =
      (template.takeAll other arguments).withoutNotes :=
  Reporting.withoutNotes_foldlM_congr (fun given argument => template.take_settings settings other given argument)
    arguments []

theorem instantiate_settings (around : Surroundings) (parent : ContextId) (arguments : List (String × Value)) :
    (template.instantiate (around.under settings) parent arguments).withoutNotes =
      (template.instantiate (around.under other) parent arguments).withoutNotes := by
  refine Run.withoutNotes_bind_congr rfl fun context => ?_
  have taken : (liftM (template.takeAll settings arguments) : Run Given).withoutNotes =
      (liftM (template.takeAll other arguments) : Run Given).withoutNotes := by
    rw [Run.withoutNotes_lift, Run.withoutNotes_lift, template.takeAll_settings settings other arguments]
  refine Run.withoutNotes_bind_congr taken fun given => ?_
  exact Run.withoutNotes_bind_congr rfl fun _ => template.block.run_settings around settings other context

end Template

/-! ### Sessions -/

theorem Session.withoutNotes_perform {α : Type} (session : Session) (run : Run α) :
    Prod.map id Reporting.withoutNotes (session.perform run) = session.perform run.withoutNotes := rfl

/-- Settings affect notes and nothing else. The first part is about whatever callbacks a host has, as long as
their answers depend on their arguments and on what contexts bind; the second is about the functions of a session,
whose templates run inside the calls of one another. -/
theorem Session.settings_affect_notes_only :
    (∀ (around : Surroundings) (settings other : Settings) (context : ContextId),
      (∀ expr : Expr, (expr.run (around.under settings) context).withoutNotes =
        (expr.run (around.under other) context).withoutNotes) ∧
      (∀ block : Block, (block.run (around.under settings) context).withoutNotes =
        (block.run (around.under other) context).withoutNotes) ∧
      (∀ (template : Template) (arguments : List (String × Value)),
        (template.instantiate (around.under settings) context arguments).withoutNotes =
          (template.instantiate (around.under other) context arguments).withoutNotes)) ∧
    (∀ (session : Session) (settings other : Settings) (context : ContextId),
      (∀ expr : Expr, (session.evaluate settings context expr).withoutNotes =
        (session.evaluate other context expr).withoutNotes) ∧
      (∀ block : Block,
        Prod.map id Reporting.withoutNotes (session.execute settings context block) =
          Prod.map id Reporting.withoutNotes (session.execute other context block)) ∧
      (∀ (template : Template) (arguments : List (String × Value)),
        Prod.map id Reporting.withoutNotes (session.instantiate settings context template arguments) =
          Prod.map id Reporting.withoutNotes (session.instantiate other context template arguments))) := by
  constructor
  · intro around settings other context
    refine ⟨fun expr => ?_, fun block => ?_, fun template arguments => ?_⟩
    · exact expr.run_settings around settings other context
    · exact block.run_settings around settings other context
    · exact template.instantiate_settings settings other around context arguments
  · intro session settings other context
    -- what a call of a template comes to is part of the surroundings, and the same under all settings
    have around : ∀ chosen : Settings,
        session.surroundings chosen = (session.surroundings settings).under chosen := fun _ => rfl
    refine ⟨fun expr => ?_, fun block => ?_, fun template arguments => ?_⟩
    · exact expr.eval_settings ((session.surroundings settings).environment session.contexts context)
        settings other
    · unfold Session.execute
      rw [withoutNotes_perform, withoutNotes_perform, around other, around settings,
        block.run_settings (session.surroundings settings) settings other context]
    · unfold Session.instantiate
      rw [withoutNotes_perform, withoutNotes_perform, around other, around settings,
        template.instantiate_settings settings other (session.surroundings settings) context arguments]

end Circuitry
