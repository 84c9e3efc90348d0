import Circuitry.Session

/-!
# Sequences of operations

A host builds a session up by one operation after another, from the session that holds the builtin names.
`Session.after` is where a sequence of operations leads. An operation that is refused changes nothing, and one
that a fault ends changes what it did before.
-/

set_option autoImplicit false

namespace Circuitry

/-- What a host can do to a session. -/
inductive Operation where
  | newScope (parent : ScopeId)
  | declare (scope : ScopeId) (name : String)
  | newContext (parent : Option ContextId)
  | define (context : ContextId) (symbol : Symbol) (value : Value)
  /-- Makes a function of a callback. -/
  | newCallback (run : List Value → CallResult)
  | newModel (name : String) (description : ModelDescription)
  | newObject (attributes : List (String × Value))
  /-- Makes a function of a template that instantiates it inside a context. -/
  | newFunction (parent : ContextId) (template : Template)
  | execute (settings : Settings) (context : ContextId) (block : Block)
  | instantiate (settings : Settings) (parent : ContextId) (template : Template)
    (arguments : List (String × Value))

/-- The session after an operation. -/
def Operation.apply (session : Session) : Operation → Session
  | .newScope parent => (session.newScope parent).2
  | .declare scope name =>
    match session.declare scope name with
    | .ok (_, later) => later
    | .error _ => session
  | .newContext parent => (session.newContext parent).2
  | .define context symbol value =>
    match session.define context symbol value with
    | .ok later => later
    | .error _ => session
  | .newCallback run => (session.newFunction (.callback run)).2
  | .newModel name description => (session.newModel name description).2
  | .newObject attributes => (session.newObject attributes).2
  | .newFunction parent template => (session.templateFunction parent template).1
  | .execute settings context block => (session.execute settings context block).1
  | .instantiate settings parent template arguments =>
    (session.instantiate settings parent template arguments).1

/-- The session to which a sequence of operations leads. -/
def Session.after (operations : List Operation) : Session := operations.foldl Operation.apply start

/-! ### Functions -/

/-- The functions of the first session are all builtin. -/
theorem Session.start_builtin {number : Nat} {body : FunctionBody}
    (found : start.functions.get? number = some body) : ∃ builtin, body = .builtin builtin := by
  have member : body ∈ start.functions.newestFirst := by
    unfold Numbered.get? at found
    split at found
    · exact List.mem_of_getElem? found
    · cases found
  obtain ⟨builtin, -, rfl⟩ := List.mem_map.1 (List.mem_reverse.1 member)
  exact ⟨builtin, rfl⟩

theorem Session.start_no_template {number : Nat} {template : Template} {parent : ContextId} :
    start.functions.get? number ≠ some (.template template parent) := by
  intro found
  obtain ⟨_, impossible⟩ := start_builtin found
  cases impossible

/-- The functions of a session with one more. -/
theorem Session.get?_newFunction (session : Session) (body : FunctionBody) (number : Nat) :
    (session.newFunction body).2.functions.get? number =
      if number = session.functions.size then some body else session.functions.get? number :=
  Numbered.get?_push ..

/-- Whatever a function does in one session it does in another one. -/
def Session.Retains (session later : Session) : Prop :=
  ∀ number body, session.functions.get? number = some body → later.functions.get? number = some body

namespace Session.Retains

variable {session later last : Session}

protected theorem refl (session : Session) : session.Retains session := fun _ _ found => found

protected theorem trans (retains : session.Retains later) (retains' : later.Retains last) : session.Retains last :=
  fun number body found => retains' number body (retains number body found)

/-- A new function takes the place of none. -/
theorem newFunction (session : Session) (body : FunctionBody) : session.Retains (session.newFunction body).2 := by
  intro number found is
  have inside : number < session.functions.size := (Numbered.isSome_get?_iff ..).1 (by simp [is])
  rw [get?_newFunction, if_neg (Nat.ne_of_lt inside)]
  exact is

theorem templateFunction (session : Session) (parent : ContextId) (template : Template) :
    session.Retains (session.templateFunction parent template).1 := by
  unfold Session.templateFunction evaluateAbstract perform
  rcases template.evaluateAbstract (session.surroundings .standard) parent session.contexts with
    ⟨contexts, fault | ⟨value, diagnostics⟩⟩
  · exact .refl session
  · simp only
    cases value.ty? with
    | none => exact .refl session
    | some ty => exact newFunction { session with contexts } (.template template parent)

theorem apply (session : Session) (operation : Operation) : session.Retains (operation.apply session) := by
  cases operation with
  | declare scope name =>
    simp only [Operation.apply, Session.declare]
    cases session.scopes.declare scope name <;> exact .refl session
  | define context symbol value =>
    simp only [Operation.apply, Session.define]
    cases session.contexts.define context symbol value <;> exact .refl session
  | newCallback run => exact newFunction session (.callback run)
  | newFunction parent template => exact templateFunction session parent template
  | _ => exact .refl session

/-- Functions stay what they are, whatever a host does. -/
theorem foldl_apply (session : Session) (operations : List Operation) :
    session.Retains (operations.foldl Operation.apply session) := by
  induction operations generalizing session with
  | nil => exact .refl session
  | cons operation rest ih => exact (apply session operation).trans (ih _)

end Session.Retains

end Circuitry
