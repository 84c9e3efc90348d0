import Circuitry.Proofs.Expr.Soundness
import Circuitry.Proofs.Session.Depth
import Circuitry.Proofs.Session.Operations
import Circuitry.Proofs.Template.Naming

/-!
# Calling a template

A template can be instantiated, and it can be made a function and called. Arguments are matched to parameters by
different means, but for proper arguments the outcome is the same: the call gives the value of the instance, or it
fails with the messages of its errors. A call starts an instance one level deeper, so what the instance comes to at
some depth is what the call comes to at the next.
-/

set_option autoImplicit false

namespace Circuitry

namespace Session

/-- A function that is made of a template is kept as such. -/
theorem templateFunction_eq_ok {session after : Session} {parent : ContextId} {template : Template} {function : Value}
    {diagnostics : List Diagnostic}
    (made : session.templateFunction parent template = (after, .ok (function, diagnostics)))
    (callable : function ≠ .placeholder) :
    ∃ ty id, function = .ofFunction (template.signature ty) id ∧
      after.functions.get? id.index = some (.template template parent) := by
  unfold templateFunction at made
  rcases evaluated : session.evaluateAbstract parent template with ⟨later, fault | ⟨value, reported⟩⟩
  · simp only [evaluated] at made
    cases made
  · simp only [evaluated] at made
    cases has : value.ty? with
    | none =>
      simp only [has] at made
      cases made
      exact absurd rfl callable
    | some ty =>
      simp only [has] at made
      cases made
      refine ⟨ty, ⟨later.functions.size⟩, rfl, ?_⟩
      rw [get?_newFunction, if_pos rfl]

/-- What the host answers to a call of a function that a template makes: what comes of an instance. -/
theorem hostIn_call_template {session : Session} {id : FunctionId} {template : Template} {parent : ContextId}
    (found : session.functions.get? id.index = some (.template template parent)) (depth : Nat) (values : List Value) :
    (session.hostIn (depth + 1) session.contexts).call id values =
      (session.instantiateAt .standard parent template (template.named values) depth).map
        fun (value, diagnostics) => Template.callResult value diagnostics := by
  rw [hostIn, hostWith_template session found, callTemplate]
  unfold instantiateAt surroundingsAt
  rcases template.instantiate ⟨session.scopes, session.hostIn depth, .standard⟩ parent (template.named values)
    session.contexts with ⟨last, fault | ⟨value, diagnostics⟩⟩ <;> rfl

end Session

namespace Template

variable {value : Value} {diagnostics : List Diagnostic}

theorem callResult_of_no_error (none : ∀ diagnostic ∈ diagnostics, diagnostic.isError = false) :
    callResult value diagnostics = .ok value := by
  have empty : diagnostics.filter Diagnostic.isError = [] :=
    List.filter_eq_nil_iff.2 fun diagnostic member => by simp [none diagnostic member]
  simp only [callResult, empty]

theorem callResult_of_error (some : ∃ diagnostic ∈ diagnostics, diagnostic.isError = true) :
    callResult value diagnostics =
      .error ("; ".intercalate ((diagnostics.filter Diagnostic.isError).map Diagnostic.message)) := by
  obtain ⟨diagnostic, member, error⟩ := some
  unfold callResult
  split
  · rename_i empty
    simpa [error] using List.filter_eq_nil_iff.1 empty diagnostic member
  · rfl

end Template

section Calls

variable {before after later : Session} {parent : ContextId} {template : Template} {function : Value}
variable {reported early late : List Diagnostic} {settings : Settings} {context : ContextId} {depth : Nat}
variable {callee : Expr} {arguments : List Argument} {byPosition byName : List Supplied}
variable {named : List (String × Value)}

/-- A function made of a template, called at any later time with proper arguments, gives what an instance with these
arguments under their names gives in the same session, and reports nothing itself unless the instance has errors. Then
it gives a placeholder and reports one failure, with the messages of all errors in order. -/
theorem Session.evaluateAt_call (made : before.templateFunction parent template = (after, .ok (function, reported)))
    (callable : function ≠ .placeholder) (retains : after.Retains later) (regular : template.Regular)
    (serves : template.Serves byPosition byName)
    (evaluated : callee.eval ((later.surroundingsAt (depth + 1) settings).environment later.contexts context) =
      .ok (function, early))
    (given : Argument.evalAll ((later.surroundingsAt (depth + 1) settings).environment later.contexts context)
      arguments = .ok (byPosition ++ byName, late))
    (perm : (template.underNames byPosition byName).Perm named) (span : Span) :
    (∀ fault, later.instantiateAt .standard parent template named depth = .error fault →
      later.evaluateAt settings context (.call callee arguments span) (depth + 1) = .error fault) ∧
    ∀ value diagnostics, later.instantiateAt .standard parent template named depth = .ok (value, diagnostics) →
      ((∀ diagnostic ∈ diagnostics, diagnostic.isError = false) →
        later.evaluateAt settings context (.call callee arguments span) (depth + 1) =
          .ok (value, early ++ late)) ∧
      ((∃ diagnostic ∈ diagnostics, diagnostic.isError = true) →
        later.evaluateAt settings context (.call callee arguments span) (depth + 1) =
          .ok (.placeholder, early ++ late ++ [Diagnostic.error .callFailed (some span)
            ("call failed: " ++
              "; ".intercalate ((diagnostics.filter Diagnostic.isError).map Diagnostic.message))])) := by
  obtain ⟨ty, id, rfl, held⟩ := templateFunction_eq_ok made callable
  have found := retains _ _ held
  have distinct : ((template.signature ty).parameters.map Parameter.name).Nodup := by
    rw [Template.signature, List.map_map]
    exact regular.distinct
  have naming : ∀ argument ∈ byName, argument.name.isSome = true := fun argument member => by
    obtain ⟨_, _, -, is, -⟩ := serves.names argument member
    simp [is]
  have fits := serves.fits regular ty
  obtain ⟨values, length, each⟩ := fits.exists_values
  have bound : (template.signature ty).bind settings (byPosition ++ byName) span = .ok (some values, []) :=
    (Signature.bind_iff_fits distinct serves.unnamed naming).2 ⟨rfl, fits, length, each⟩
  have known : ∀ value ∈ values, value.isKnown = true := fun value member => by
    obtain ⟨slot, is⟩ := List.mem_iff_getElem?.1 member
    exact serves.known regular ((each slot).symm.trans is)
  have length' : values.length = template.parameters.length := by simpa [Template.signature] using length
  have same : later.instantiateAt .standard parent template (template.named values) depth =
      later.instantiateAt .standard parent template named depth := by
    unfold instantiateAt
    rw [serves.instantiate_named regular length' each perm]
  have answer : ((later.surroundingsAt (depth + 1) settings).environment later.contexts context).host.call id values =
      (later.instantiateAt .standard parent template named depth).map
        fun (value, diagnostics) => Template.callResult value diagnostics := by
    rw [← same]
    exact hostIn_call_template found depth values
  -- the call hands the values on to the host, and reports nothing on the way
  have call : (((later.surroundingsAt (depth + 1) settings).environment later.contexts context).call
      (.ofFunction (template.signature ty) id) (byPosition ++ byName) callee.span span) =
        ((later.surroundingsAt (depth + 1) settings).environment later.contexts context).invoke
          (.function (template.signature ty)) (.ofFunction (template.signature ty) id) values span := by
    rw [Environment.call_of_callable rfl rfl]
    change ((template.signature ty).bind settings (byPosition ++ byName) span).andThen _ = _
    rw [bound]
    exact Reporting.give_andThen _ _
  unfold evaluateAt
  rw [Environment.eval_call evaluated given, call, Environment.invoke_known rfl known, answer]
  refine ⟨fun fault failed => ?_, fun value diagnostics ran => ⟨fun none => ?_, fun some => ?_⟩⟩
  · rw [failed]
    rfl
  · rw [ran]
    change ((liftM (Except.ok (Template.callResult value diagnostics)) : Reporting CallResult) >>= _).map _ = _
    rw [Template.callResult_of_no_error none, Reporting.lift_bind]
    exact congrArg (fun all => Except.ok (value, all)) (List.append_nil _)
  · rw [ran]
    change ((liftM (Except.ok (Template.callResult value diagnostics)) : Reporting CallResult) >>= _).map _ = _
    rw [Template.callResult_of_error some, Reporting.lift_bind]
    rfl

end Calls

namespace Checked

def amount : Symbol := ⟨18, "amount", ⟨1⟩⟩

def divisor : Symbol := ⟨19, "divisor", ⟨1⟩⟩

def quotient : Symbol := ⟨20, "quotient", ⟨1⟩⟩

def place : Span := .atStart 0

def number (value : Rat) : Value := .ofQuantity (.ofNumber value)

def parameters : List TemplateParameter := [⟨amount, .plainNumber, none⟩, ⟨divisor, .plainNumber, some (number 2)⟩]

/-- Divides a number, and gives it back. -/
def template : Template :=
  (Template.ofStatements "checked" ⟨1⟩ parameters
    [.assign quotient (.binary (.arithmetic .div) (.symbol amount place) (.symbol divisor place) place),
      .result (.symbol amount place)]).1

/-- The session in which the template is made a function. -/
def before : Session :=
  Session.after [.newScope Session.rootScope, .declare ⟨1⟩ "amount", .declare ⟨1⟩ "divisor", .declare ⟨1⟩ "quotient"]

def after : Session := (before.templateFunction Session.rootContext template).1

/-- A later one, with one more context. -/
def later : Session := [Operation.newContext (some Session.rootContext)].foldl Operation.apply after

def function : Value := .ofFunction (template.signature .plainNumber) ⟨4⟩

/-- Six is given by position, and the divisor by name. -/
def callWith (value : Rat) : Expr :=
  .call (.literal function place)
    [.positional (.literal (number 6) place), ⟨some "divisor", .literal (number value) place, place⟩] place

def byPosition : List Supplied := [⟨none, number 6, place⟩]

def byName (value : Rat) : List Supplied := [⟨some "divisor", number value, place⟩]

/-- What is reported of a division by zero. -/
def byZero : Diagnostic :=
  (Diagnostic.error .divisionByZero (some place) "division by zero").withLabel place "divisor is zero"

theorem made : before.templateFunction Session.rootContext template = (after, .ok (function, [])) := by rfl

theorem admits (symbol : Symbol) (fallback : Option Value) (value : Rat) :
    TemplateParameter.Admits ⟨symbol, .plainNumber, fallback⟩ (number value) :=
  ⟨_, _, rfl, rfl, rfl⟩

theorem regular : template.Regular where
  distinct := by decide
  defaults parameter member value fallback := by
    rcases List.mem_pair.1 member with rfl | rfl
    · cases fallback
    · cases fallback
      exact admits _ _ _

theorem serves (value : Rat) : template.Serves byPosition (byName value) where
  unnamed argument member := by
    cases List.mem_singleton.1 member
    rfl
  room := by decide
  distinct := List.nodup_singleton _
  names argument member := by
    cases List.mem_singleton.1 member
    exact ⟨1, _, rfl, rfl, Nat.le_refl 1⟩
  complete slot parameter found missing := by
    match slot, found with
    | 0, _ => exact .inl (by decide)
    | 1, found =>
      cases found
      cases missing
  typedByPosition slot parameter argument found given := by
    match slot, found, given with
    | 0, found, given =>
      cases found
      cases given
      exact admits _ _ _
  typedByName argument member parameter declared _ := by
    cases List.mem_singleton.1 member
    rcases List.mem_pair.1 declared with rfl | rfl <;> exact admits _ _ _

end Checked

/-- Divided by three, the number is given back by a call. Divided by zero, it is given back by an instance all the
same, but with an error, and the call fails. -/
theorem Session.checked_called :
    Checked.later.evaluateAt .standard Session.rootContext (Checked.callWith 3) 1 = .ok (Checked.number 6, []) ∧
      Checked.later.evaluateAt .standard Session.rootContext (Checked.callWith 0) 1 =
        .ok (.placeholder, [Diagnostic.error .callFailed (some Checked.place) "call failed: division by zero"]) := by
  have retains : Checked.after.Retains Checked.later := .foldl_apply Checked.after _
  have callee : (Expr.literal Checked.function Checked.place).eval
      ((Checked.later.surroundingsAt 1 .standard).environment Checked.later.contexts rootContext) =
      .ok (Checked.function, []) := rfl
  have supplied (value : Rat) : Argument.evalAll
      ((Checked.later.surroundingsAt 1 .standard).environment Checked.later.contexts rootContext)
      [.positional (.literal (Checked.number 6) Checked.place),
        ⟨some "divisor", .literal (Checked.number value) Checked.place, Checked.place⟩] =
      .ok (Checked.byPosition ++ Checked.byName value, []) := rfl
  -- the instance is given the divisor first
  have named (value : Rat) : (Checked.template.underNames Checked.byPosition (Checked.byName value)).Perm
      [("divisor", Checked.number value), ("amount", Checked.number 6)] := List.Perm.swap ..
  have ran : Checked.later.instantiateAt .standard rootContext Checked.template
      [("divisor", Checked.number 3), ("amount", Checked.number 6)] 0 = .ok (Checked.number 6, []) := rfl
  have failed : Checked.later.instantiateAt .standard rootContext Checked.template
      [("divisor", Checked.number 0), ("amount", Checked.number 6)] 0 =
        .ok (Checked.number 6, [Checked.byZero]) := rfl
  have three := evaluateAt_call Checked.made nofun retains Checked.regular (Checked.serves 3) callee (supplied 3)
    (named 3) Checked.place
  have zero := evaluateAt_call Checked.made nofun retains Checked.regular (Checked.serves 0) callee (supplied 0)
    (named 0) Checked.place
  exact ⟨(three.2 _ _ ran).1 (by simp), (zero.2 _ _ failed).2 ⟨Checked.byZero, by simp, rfl⟩⟩

end Circuitry
