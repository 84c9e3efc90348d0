import Circuitry.Host.Builtin
import Circuitry.Host.Script
import Circuitry.Kernel.Native
import Circuitry.Template.Basic

/-!
# Sessions

A session holds all state: scopes, contexts, and what functions, models and objects are. Its operations are
those of the language on that state. A function made from a template instantiates it in the contexts as
they are when it is called, so calls can nest; the depth of nesting is bounded, and going deeper is a fault.
-/

set_option autoImplicit false

namespace Circuitry

/-- What a function does when it is called. -/
inductive FunctionBody where
  | builtin (builtin : Builtin)
  /-- A callback of the host gives what depends on its arguments only. -/
  | callback (run : List Value → CallResult)
  /-- Instantiates a template inside a context. -/
  | template (template : Template) (parent : ContextId)

/-- A function whose callback is given as data. -/
def FunctionBody.script (script : Script) : FunctionBody := .callback (script.run [])

/-- A kind of host objects: its attributes, and how its objects are called if they can be. -/
structure ModelDescription where
  attributes : List (String × Ty)
  signature? : Option Signature
  /-- What an object with given attributes does with its arguments. -/
  call? : Option (List (String × Value) → List Value → CallResult)

/-- A script stands for what it does with attributes and arguments. -/
instance : Coe (Option Script) (Option (List (String × Value) → List Value → CallResult)) := ⟨Option.map Script.run⟩

/-- All state. -/
structure Session where
  scopes : ScopeForest
  contexts : ContextForest
  functions : Numbered FunctionBody
  models : Numbered ModelDescription
  /-- The attributes of all host objects. -/
  objects : Numbered (List (String × Value))

namespace Session

/-- The session that holds the builtin names and nothing else. -/
def start : Session :=
  ⟨builtinScopes, builtinContexts, .ofList (Builtin.all.map FunctionBody.builtin), .ofList [], .ofList []⟩

/-- The scope of the builtin names. -/
def rootScope : ScopeId := ⟨0⟩

/-- The context of the builtin names. -/
def rootContext : ContextId := ⟨0⟩

/-- How deep calls of templates may nest. Every level adds to the message of a failure at the bottom, so this
is deeper than any nesting whose report could still be read. -/
def maxDepth : Nat := 100000

/-- The attributes of a host object. -/
def attributesOf (session : Session) (object : ObjectId) : List (String × Value) :=
  (session.objects.get? object.index).getD []

/-- The behavior of a kind of host objects. An attribute of an object is its own, whatever the kind says. -/
def behavior (session : Session) (kind : ModelType) : ModelBehavior :=
  match session.models.get? kind.index with
  | none => ⟨fun _ => none, fun _ _ => none, [], none, ModelBehavior.notCallable⟩
  | some description =>
    { attributeType? := fun name => description.attributes.lookup name
      attribute? := fun object name => (session.attributesOf object).lookup name
      attributeNames := description.attributes.map Prod.fst
      signature? := description.signature?
      call :=
        match description.call? with
        | none => ModelBehavior.notCallable
        | some run => fun object arguments => run (session.attributesOf object) arguments }

/-- The result of calling a template as a function, with the host that its instance may call. -/
def callTemplate (session : Session) (hostIn : ContextForest → Host) (contexts : ContextForest)
    (template : Template) (parent : ContextId) (arguments : List Value) : Except Fault CallResult :=
  let around : Surroundings := ⟨session.scopes, hostIn, .standard⟩
  match (template.instantiate around parent (template.named arguments) contexts).2 with
  | .error fault => .error fault
  | .ok (value, diagnostics) => .ok (Template.callResult value diagnostics)

/-- The host, given what calls of templates as functions result in. -/
def hostWith (session : Session)
    (callTemplate : Template → ContextId → List Value → Except Fault CallResult) : Host :=
  { model := session.behavior
    call := fun id arguments =>
      match session.functions.get? id.index with
      | some (.builtin builtin) => .ok (builtin.call arguments)
      | some (.callback run) => .ok (run arguments)
      | some (.template template parent) => callTemplate template parent arguments
      | none => .ok (.error "no such function") }

/-- The host in given contexts, with calls of templates nested at most to a given depth. -/
def hostIn (session : Session) : Nat → ContextForest → Host
  | 0, _ => session.hostWith fun _ _ _ => .error .tooDeep
  | depth + 1, contexts => session.hostWith (session.callTemplate (session.hostIn depth) contexts)

/-- The host as it is now. -/
def host (session : Session) : Host := session.hostIn maxDepth session.contexts

/-- What runs in this session depend on. -/
def surroundings (session : Session) (settings : Settings) : Surroundings :=
  ⟨session.scopes, session.hostIn maxDepth, settings⟩

/-! ### Operations -/

/-- A new, empty scope inside another one. -/
def newScope (session : Session) (parent : ScopeId) : ScopeId × Session :=
  let (scope, scopes) := session.scopes.newChild parent
  (scope, { session with scopes })

/-- Declares a name in a scope. -/
def declare (session : Session) (scope : ScopeId) (name : String) : Except ScopeError (Symbol × Session) :=
  match session.scopes.declare scope name with
  | .ok (symbol, scopes) => .ok (symbol, { session with scopes })
  | .error error => .error error

/-- A new, empty context inside another one, or without any around it. -/
def newContext (session : Session) (parent : Option ContextId) : ContextId × Session :=
  let (context, contexts) :=
    match parent with
    | some parent => session.contexts.newChild parent
    | none => session.contexts.newRoot
  (context, { session with contexts })

/-- Binds a symbol in a context. -/
def define (session : Session) (context : ContextId) (symbol : Symbol) (value : Value) :
    Except ContextError Session :=
  match session.contexts.define context symbol value with
  | .ok contexts => .ok { session with contexts }
  | .error error => .error error

/-- A new function that does what is described. -/
def newFunction (session : Session) (body : FunctionBody) : FunctionId × Session :=
  (⟨session.functions.size⟩, { session with functions := session.functions.push body })

/-- A new kind of host objects. Its attributes are made a record, so that each name occurs once. -/
def newModel (session : Session) (name : String) (description : ModelDescription) :
    ModelType × Session :=
  let attributes := Record.ofPairs description.attributes
  (⟨session.models.size, name⟩,
    { session with models := session.models.push { description with attributes } })

/-- A new host object, whose attributes are the record of the given ones. -/
def newObject (session : Session) (attributes : List (String × Value)) : ObjectId × Session :=
  (⟨session.objects.size⟩,
    { session with objects := session.objects.push (Record.ofPairs attributes) })

/-- Does a run; the contexts change even if a fault ends it. -/
def perform {α : Type} (session : Session) (run : Run α) : Session × Reporting α :=
  let (contexts, result) := run session.contexts
  ({ session with contexts }, result)

/-- The value of an expression in a context. -/
def evaluate (session : Session) (settings : Settings) (context : ContextId) (expr : Expr) :
    Reporting Value :=
  expr.eval ((session.surroundings settings).environment session.contexts context)

/-- Runs a block in a context. -/
def execute (session : Session) (settings : Settings) (context : ContextId) (block : Block) :
    Session × Reporting Value :=
  session.perform (block.run (session.surroundings settings) context)

/-- Instantiates a template inside a context. -/
def instantiate (session : Session) (settings : Settings) (parent : ContextId) (template : Template)
    (arguments : List (String × Value)) : Session × Reporting Value :=
  session.perform (template.instantiate (session.surroundings settings) parent arguments)

/-- Evaluates a template abstractly inside a context. -/
def evaluateAbstract (session : Session) (parent : ContextId) (template : Template) :
    Session × Reporting Value :=
  session.perform (template.evaluateAbstract (session.surroundings .standard) parent)

/-- The signature of a template as a function, if its result type can be found. -/
def templateSignature (session : Session) (parent : ContextId) (template : Template) :
    Session × Except Fault (Option Signature) :=
  let (session, result) := session.evaluateAbstract parent template
  (session, result.map fun (value, _) => value.ty?.map template.signature)

/-- A template as a function that instantiates it inside a context. If its result type cannot be found,
a placeholder and the reports of its abstract evaluation. -/
def templateFunction (session : Session) (parent : ContextId) (template : Template) :
    Session × Reporting Value :=
  match session.evaluateAbstract parent template with
  | (session, .error fault) => (session, .error fault)
  | (session, .ok (value, diagnostics)) =>
    match value.ty? with
    | none => (session, .ok (.placeholder, diagnostics))
    | some ty =>
      let (id, session) := session.newFunction (.template template parent)
      (session, Reporting.give (.ofFunction (template.signature ty) id))

end Session

end Circuitry
