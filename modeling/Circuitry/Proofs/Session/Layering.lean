import Circuitry.Proofs.Host.Callbacks
import Circuitry.Proofs.Scope.Declaration
import Circuitry.Proofs.Session.Footprint
import Circuitry.Proofs.Session.Layers

/-!
# Sessions built in layers

A session stays one whose functions lie in layers as long as each operation heeds a simple rule. A name that a
function looks up around it may be bound only to what lies below the function; a function may be made only of a
template that finds what lies below it; a callback may give back only what lies no higher than itself and its
arguments; a block may not bind names that functions look up in its context; and a scope takes no declarations once
a function is made of a template of it. Nothing is asked of instances. So every session that such operations lead to
is one in which everything ends.
-/

set_option autoImplicit false

namespace Circuitry

variable {registry : Registry} {layer : FunctionId → Nat} {session : Session}

/-! ### The first session -/

theorem ContextForest.builtin_closed : builtinContexts.Closed := by
  intro context outer member
  by_cases first : context = ⟨0⟩
  · subst first
    have path : builtinContexts.path ⟨0⟩ = [⟨0⟩] := by rfl
    rw [path] at member
    cases List.mem_singleton.1 member
    decide
  · have outside : builtinContexts.node? context = none := by
      refine Numbered.get?_eq_none _ (Nat.one_le_iff_ne_zero.2 fun same => first ?_)
      exact congrArg ContextId.mk same
    simp [ContextForest.path, outside] at member

theorem Session.start_callbacks :
    (start.hostWith fun _ _ _ => .ok (.error "")).Sound registry where
  attributeType _ _ _ found := by cases found
  attributeValue _ _ _ _ _ _ found := by cases found
  signature _ _ found := by cases found
  callModel _ _ _ _ _ _ found := by cases found
  call id signature arguments _ admitted := by
    simp only [hostWith]
    cases found : start.functions.get? id.index with
    | none => exact ⟨_, rfl, by simp⟩
    | some body =>
      obtain ⟨builtin, rfl⟩ := start_builtin found
      exact ⟨_, rfl, fun value gave => builtin.call_wellFormed admitted.sound gave⟩

theorem Session.start_layered : start.Layered registry layer where
  closed := ContextForest.builtin_closed
  callbacks _ := start_callbacks
  finds _ _ _ found := absurd found start_no_template
  distinct _ _ _ found := absurd found start_no_template
  inside _ _ _ found := absurd found start_no_template

/-! ### Operations -/

variable (registry layer session) in
/-- The rules that keep the functions of a session in layers. -/
def Operation.Safe : Operation → Prop
  /- A scope whose template is a function takes no more declarations. -/
  | .declare scope _ => ∀ number template parent,
    session.functions.get? number = some (.template template parent) → template.block.scope ≠ scope
  /- What a function looks up is bound to what lies below the function. -/
  | .define context symbol value => ∀ number template parent below,
    session.functions.get? number = some (.template template parent) → layer ⟨number⟩ = below + 1 →
      symbol ∈ template.block.mentions session.scopes → context ∈ session.contexts.path parent →
      value.wellFormed (registry.upTo layer below) = true
  /- What a callback gives back for arguments that suit it lies no higher than the callback and the arguments. -/
  | .newCallback run => ∀ top signature arguments value,
    (registry.upTo layer top).allows ⟨session.functions.size⟩ signature = true →
      signature.Admits (registry.upTo layer top) arguments → run arguments = .ok value →
        value.wellFormed (registry.upTo layer top) = true
  /- What models give back is well-formed at every layer. -/
  | .newModel name description => ∀ top,
    ((session.newModel name description).2.hostWith fun _ _ _ => .ok (.error "")).Sound (registry.upTo layer top)
  | .newObject attributes => ∀ top,
    ((session.newObject attributes).2.hostWith fun _ _ _ => .ok (.error "")).Sound (registry.upTo layer top)
  /- A function lies above what its template finds in a context that is there. -/
  | .newFunction parent template => parent.index < session.contexts.nodes.size ∧
    ∃ below, layer ⟨session.functions.size⟩ = below + 1 ∧
      template.Finds registry layer session ⟨session.functions.size⟩ parent below
  /- A block binds nothing that functions look up in its context. -/
  | .execute _ context block => ∀ number template parent,
    session.functions.get? number = some (.template template parent) →
      ∀ symbol ∈ block.statements.filterMap Statement.target?,
        symbol ∈ template.block.mentions session.scopes → context ∉ session.contexts.path parent
  | .newScope _ | .newContext _ | .instantiate _ _ _ _ => True

/-- A callback that is given as data heeds the rule if its constant does. -/
theorem Script.safe (script : Script) (constants : ∀ value, script = .constant value →
      value.wellFormed (registry.upTo layer (layer ⟨session.functions.size⟩)) = true) :
    (Operation.newCallback (script.run [])).Safe registry layer session := by
  intro top signature arguments value allowed admitted gave
  have grows : (registry.upTo layer (layer ⟨session.functions.size⟩)).Grows (registry.upTo layer top) :=
    Registry.upTo_grows (Registry.allows_upTo.1 allowed).2
  exact script.wellFormed_of_run admitted.sound (fun fixed is => Value.wellFormed_grows grows (constants fixed is)) gave

namespace Session.Layered

variable (layered : session.Layered registry layer)
include layered

/-- Functions stay in layers while they stay the same, mention the same symbols, and see the same under them. -/
theorem of_undisturbed {later : Session} (functions : later.functions = session.functions)
    (declared : ∀ number template parent, session.functions.get? number = some (.template template parent) →
      later.scopes.symbols template.block.scope = session.scopes.symbols template.block.scope)
    (undisturbed : session.Undisturbed later.contexts)
    (callbacks : ∀ top, (later.hostWith fun _ _ _ => .ok (.error "")).Sound (registry.upTo layer top)) :
    later.Layered registry layer where
  closed := undisturbed.closed
  callbacks := callbacks
  finds number template parent made := by
    rw [functions] at made
    obtain ⟨below, above, finds⟩ := layered.finds number template parent made
    have mentions : template.block.mentions later.scopes = template.block.mentions session.scopes := by
      unfold Block.mentions
      rw [declared number template parent made]
    refine ⟨below, above, finds.sound, fun symbol mentioned value found => ?_, finds.arguments⟩
    rw [mentions] at mentioned
    rw [undisturbed.values number template parent made symbol mentioned] at found
    exact finds.shows symbol mentioned value found
  distinct number template parent made := layered.distinct number template parent (functions ▸ made)
  inside number template parent made := undisturbed.inside number template parent (functions ▸ made)

/-- It is enough that other contexts show functions the same. -/
theorem of_contexts {contexts : ContextForest} (undisturbed : session.Undisturbed contexts) :
    ({ session with contexts } : Session).Layered registry layer :=
  layered.of_undisturbed rfl (fun _ _ _ _ => rfl) undisturbed layered.callbacks

theorem define {context : ContextId} {symbol : Symbol} {value : Value} {later : Session}
    (defined : session.define context symbol value = .ok later)
    (safe : (Operation.define context symbol value).Safe registry layer session) :
    later.Layered registry layer := by
  unfold Session.define at defined
  cases bound : session.contexts.define context symbol value with
  | error error =>
    rw [bound] at defined
    cases defined
  | ok extended =>
    rw [bound] at defined
    cases defined
    obtain ⟨unsealed, -, rfl⟩ := ContextForest.define_eq_ok.1 bound
    refine ⟨layered.closed.extend, layered.callbacks, fun number template parent made => ?_,
      layered.distinct, fun number template parent made => ?_⟩
    · obtain ⟨below, above, finds⟩ := layered.finds number template parent made
      refine ⟨below, above, finds.sound, fun other mentioned result found => ?_, finds.arguments⟩
      by_cases around : context ∈ session.contexts.path parent
      · rcases ContextForest.value?_extend_eq_some unsealed found with before | now
        · exact finds.shows other mentioned result before
        · rw [List.lookup_cons] at now
          split at now
          · rename_i same
            cases now
            rw [eq_of_beq same] at mentioned
            exact safe number template parent below made above mentioned around
          · cases now
      · rw [ContextForest.value?_extend_of_apart unsealed (.inr around)] at found
        exact finds.shows other mentioned result found
    · change parent.index < (session.contexts.extend context _).nodes.size
      rw [ContextForest.size_extend]
      exact layered.inside number template parent made

/-- A new function joins the others if it is sound and, should a template make it, lies above what this finds. -/
theorem push {body : FunctionBody}
    (callback : ∀ top signature arguments,
      (registry.upTo layer top).allows ⟨session.functions.size⟩ signature = true →
      signature.Admits (registry.upTo layer top) arguments →
      ∃ result, ((session.newFunction body).2.hostWith fun _ _ _ => .ok (.error "")).call
          ⟨session.functions.size⟩ arguments = .ok result ∧
        ∀ value, result = .ok value → value.wellFormed (registry.upTo layer top) = true)
    (finds : ∀ template parent, body = .template template parent →
      template.targets.Nodup ∧ parent.index < session.contexts.nodes.size ∧
        ∃ below, layer ⟨session.functions.size⟩ = below + 1 ∧
          template.Finds registry layer session ⟨session.functions.size⟩ parent below) :
    (session.newFunction body).2.Layered registry layer := by
  -- a function of the larger session is an old one, or the new one
  have cases_of : ∀ {number : Nat} {found : FunctionBody},
      (session.newFunction body).2.functions.get? number = some found →
        number = session.functions.size ∧ body = found ∨ session.functions.get? number = some found := by
    intro number found is
    rw [get?_newFunction] at is
    split at is
    · rename_i same
      exact .inl ⟨same, Option.some.inj is⟩
    · exact .inr is
  refine ⟨layered.closed, fun top => ?_, fun number template parent made => ?_, fun number template parent made => ?_,
    fun number template parent made => ?_⟩
  · have before := layered.callbacks top
    refine ⟨before.attributeType, before.attributeValue, before.signature, before.callModel,
      fun id signature arguments allowed admitted => ?_⟩
    by_cases new : id = ⟨session.functions.size⟩
    · subst new
      exact callback top signature arguments allowed admitted
    · have index : id.index ≠ session.functions.size := fun same => new (by cases id; simp_all)
      have called := before.call id signature arguments allowed admitted
      have old : (session.newFunction body).2.functions.get? id.index = session.functions.get? id.index := by
        rw [get?_newFunction, if_neg index]
      simp only [hostWith, old] at called ⊢
      exact called
  · rcases cases_of made with ⟨rfl, same⟩ | old
    · obtain ⟨-, -, below, above, found⟩ := finds template parent same
      exact ⟨below, above, found.sound, found.shows, found.arguments⟩
    · obtain ⟨below, above, found⟩ := layered.finds number template parent old
      exact ⟨below, above, found.sound, found.shows, found.arguments⟩
  · rcases cases_of made with ⟨rfl, same⟩ | old
    · exact (finds template parent same).1
    · exact layered.distinct number template parent old
  · rcases cases_of made with ⟨rfl, same⟩ | old
    · exact (finds template parent same).2.1
    · exact layered.inside number template parent old

theorem newCallback {run : List Value → CallResult} (safe : (Operation.newCallback run).Safe registry layer session) :
    (session.newFunction (.callback run)).2.Layered registry layer := by
  refine layered.push (fun top signature arguments allowed admitted => ?_) fun _ _ impossible => nomatch impossible
  have body : (session.newFunction (.callback run)).2.functions.get? session.functions.size =
      some (.callback run) := by
    rw [get?_newFunction, if_pos rfl]
  exact ⟨run arguments, by simp only [hostWith, body], fun value => safe top signature arguments value allowed admitted⟩

/-- A function made of a template lies above all that was there before. -/
theorem newFunction {parent : ContextId} {template : Template}
    (safe : (Operation.newFunction parent template).Safe registry layer session) :
    (session.templateFunction parent template).1.Layered registry layer := by
  obtain ⟨inside, below, above, finds⟩ := safe
  have undisturbed := template.evaluateAbstract_undisturbed layered.undisturbed (session.surroundings .standard)
    parent
  rcases ran : template.evaluateAbstract (session.surroundings .standard) parent session.contexts with
    ⟨contexts, result⟩
  rw [ran] at undisturbed
  have layered' := layered.of_contexts undisturbed
  have evaluated : session.evaluateAbstract parent template = ({ session with contexts }, result) := by
    simp only [Session.evaluateAbstract, perform, ran]
  unfold templateFunction
  rw [evaluated]
  rcases result with fault | ⟨value, diagnostics⟩
  · exact layered'
  · simp only
    cases value.ty? with
    | none => exact layered'
    | some ty =>
      have persists := template.evaluateAbstract_persists inside layered.closed.child_apart ran
      refine layered'.push (fun top signature arguments _ _ => ?_) fun _ _ same => ?_
      · have body : (({ session with contexts } : Session).newFunction (.template template parent)).2.functions.get?
            session.functions.size = some (.template template parent) :=
          (get?_newFunction _ _ _).trans (if_pos rfl)
        exact ⟨.error "", by simp only [hostWith, body], fun _ impossible => nomatch impossible⟩
      · cases same
        refine ⟨Template.distinct_of_evaluateAbstract ran, Nat.lt_of_lt_of_le inside persists.grows, below, above,
          finds.sound, fun symbol mentioned result found => ?_, finds.arguments⟩
        rw [persists.values] at found
        exact finds.shows symbol mentioned result found

/-- An operation that heeds the rules keeps the functions of a session in layers. -/
theorem apply {operation : Operation} (safe : operation.Safe registry layer session) :
    (operation.apply session).Layered registry layer := by
  cases operation with
  | newScope parent =>
    exact layered.of_undisturbed rfl (fun _ _ _ _ => session.scopes.symbols_newChild parent _)
      layered.undisturbed layered.callbacks
  | declare scope name =>
    simp only [Operation.apply, Session.declare]
    cases declared : session.scopes.declare scope name with
    | error error => exact layered
    | ok made =>
      obtain ⟨symbol, scopes⟩ := made
      exact layered.of_undisturbed rfl
        (fun number template parent found => ScopeForest.symbols_declare declared (safe number template parent found))
        layered.undisturbed layered.callbacks
  | newContext parent =>
    have fresh := fun inner => (layered.undisturbed.enter inner [] []).undisturbed
    cases parent with
    | some parent => exact layered.of_contexts (fresh parent)
    | none =>
      simp only [Operation.apply, Session.newContext, ContextForest.newRoot_eq]
      exact layered.of_contexts (fresh session.contexts.child)
  | define context symbol value =>
    simp only [Operation.apply]
    cases defined : session.define context symbol value with
    | error error => exact layered
    | ok later => exact layered.define defined safe
  | newCallback run => exact layered.newCallback safe
  | newModel name description =>
    exact layered.of_undisturbed rfl (fun _ _ _ _ => rfl) layered.undisturbed safe
  | newObject attributes =>
    exact layered.of_undisturbed rfl (fun _ _ _ _ => rfl) layered.undisturbed safe
  | newFunction parent template => exact layered.newFunction safe
  | execute settings context block =>
    have sheltered : session.Sheltered ⟨context, block.statements.filterMap Statement.target?, []⟩ session.contexts :=
      ⟨layered.undisturbed, safe⟩
    have footprint : Run.Footprint context (fun _ => True) (block.statements.filterMap Statement.target?)
        (block.run (session.surroundings settings) context) := block.run_footprint fun _ _ _ _ => trivial
    exact layered.of_contexts (footprint.sheltered (List.Subset.refl _) sheltered).undisturbed
  | instantiate settings parent template arguments =>
    exact layered.of_contexts (template.instantiate_undisturbed layered.undisturbed _ parent arguments)

end Session.Layered

variable (registry layer) in
/-- Every operation of a sequence heeds the rules in the session that it meets. -/
def Operation.AllSafe (session : Session) : List Operation → Prop
  | [] => True
  | operation :: rest => operation.Safe registry layer session ∧ AllSafe (operation.apply session) rest

/-- A sequence of operations that heed the rules keeps the functions of a session in layers. -/
theorem Session.Layered.applyAll {operations : List Operation} (layered : session.Layered registry layer)
    (safe : Operation.AllSafe registry layer session operations) :
    (operations.foldl Operation.apply session).Layered registry layer := by
  induction operations generalizing session with
  | nil => exact layered
  | cons operation rest ih => exact ih (layered.apply safe.1) safe.2

/-- Whatever operations led to a session, as long as they heeded the rules, everything in it ends after calls that nest
no deeper than there are layers: the evaluation of an expression, with a well-formed value; the execution of a block
that binds no symbol which a function looks up in its context; and the instantiation of a template. -/
theorem Session.after_ends {operations : List Operation} {top : Nat}
    (safe : Operation.AllSafe registry layer start operations)
    (bounded : ∀ id signature, registry.allows id signature = true → layer id ≤ top) (settings : Settings)
    (context : ContextId) :
    (∀ expr : Expr, (Session.after operations).contexts.Shows registry context expr.symbols →
      (∀ value ∈ expr.literals, value.wellFormed registry = true) →
      ∃ value diagnostics, value.wellFormed registry = true ∧
        ∀ depth, top ≤ depth →
          (Session.after operations).evaluateAt settings context expr depth = .ok (value, diagnostics)) ∧
    (∀ block : Block, (Operation.execute settings context block).Safe registry layer (Session.after operations) →
      (Session.after operations).contexts.Shows registry context
        (block.mentions (Session.after operations).scopes) →
      (∀ statement ∈ block.statements, ∀ value ∈ statement.expr.literals, value.wellFormed registry = true) →
      EndsBy ((Session.after operations).executeAt settings context block) top) ∧
    (∀ (template : Template) (arguments : List (String × Value)), template.Sound registry →
      (Session.after operations).contexts.Shows registry context
        (template.block.mentions (Session.after operations).scopes) →
      (∀ argument ∈ arguments, argument.2.wellFormed registry = true) →
      EndsBy ((Session.after operations).instantiateAt settings context template arguments) top) := by
  have layered : (Session.after operations).Layered registry layer := start_layered.applyAll safe
  obtain ⟨evaluations, executions, instances⟩ := layered_ends layered bounded settings context
  refine ⟨evaluations, fun block apart shows literals => ?_, instances⟩
  exact executions block ⟨⟨layered.undisturbed, apart⟩, shows⟩ literals

/-! ### A function that calls another one -/

namespace Restored

def opposite : Symbol := ⟨18, "opposite", ⟨1⟩⟩

def restored : Symbol := ⟨19, "restored", ⟨1⟩⟩

def input : Symbol := ⟨20, "input", ⟨2⟩⟩

def place : Span := .atStart 0

def parameters : List TemplateParameter := [⟨input, .plainNumber, none⟩]

/-- A call of a name. -/
def callOf (callee : Symbol) (argument : Expr) : Expr := .call (.symbol callee place) [.positional argument] place

/-- Changes the sign of its parameter. -/
def oppositeTemplate : Template :=
  (Template.ofStatements "opposite" ⟨2⟩ parameters [.result (.unary .neg (.symbol input place) place)]).1

/-- Changes it twice, by calls of the other function. -/
def restoredTemplate : Template :=
  (Template.ofStatements "restored" ⟨2⟩ parameters
    [.result (callOf opposite (callOf opposite (.symbol input place)))]).1

/-- A callback that gives back its argument. -/
def echo : Script := .argument 0

def echoFunction : Value := .ofFunction (oppositeTemplate.signature .plainNumber) ⟨4⟩

def oppositeFunction : Value := .ofFunction (oppositeTemplate.signature .plainNumber) ⟨5⟩

def restoredFunction : Value := .ofFunction (restoredTemplate.signature .plainNumber) ⟨6⟩

/-- A callback, and two functions of templates, which are bound in the context in which they were made. -/
def operations : List Operation :=
  [.newScope Session.rootScope, .declare ⟨1⟩ "opposite", .declare ⟨1⟩ "restored", .newScope ⟨1⟩,
    .declare ⟨2⟩ "input", .newContext (some Session.rootContext), .newCallback (echo.run []),
    .newFunction ⟨1⟩ oppositeTemplate, .define ⟨1⟩ opposite oppositeFunction, .newFunction ⟨1⟩ restoredTemplate,
    .define ⟨1⟩ restored restoredFunction]

/-- All functions take a number. -/
def numeric : Registry where
  allows id signature :=
    match signature with
    | ⟨[⟨_, .exactly (.number _), _⟩], _⟩ => 4 ≤ id.index && id.index ≤ 6
    | _ => false
  holds _ _ := false

/-- The callback lies lowest, and the second function of a template above the first. -/
def level (id : FunctionId) : Nat := id.index - 4

def one : Value := .ofQuantity (.ofNumber 1)

theorem bounded (id : FunctionId) (signature : Signature) (allowed : numeric.allows id signature = true) :
    level id ≤ 2 := by
  simp only [numeric] at allowed
  split at allowed
  · simp only [Bool.and_eq_true, decide_eq_true_eq] at allowed
    simp only [level]
    omega
  · cases allowed

theorem arguments {later : Registry} (id : FunctionId) (signature : Signature) (arguments : List Value)
    (allowed : numeric.allows id signature = true) (admitted : signature.Admits numeric arguments) :
    ∀ argument ∈ arguments, argument.wellFormed later = true := by
  refine admitted.of_data fun parameter member => ?_
  simp only [numeric] at allowed
  split at allowed
  · cases List.mem_singleton.1 member
    exact ⟨_, rfl, rfl, rfl⟩
  · cases allowed

theorem sound {later : Registry} {template : Template} (listed : template.parameters = parameters)
    (none : ∀ statement ∈ template.block.statements, statement.expr.literals = []) : template.Sound later where
  parameters parameter member := by
    rw [listed] at member
    cases List.mem_singleton.1 member
    exact ⟨rfl, fun _ missing => nomatch missing⟩
  literals statement member value literal := by
    rw [none statement member] at literal
    cases literal

/-- The callback is made of no template. -/
theorem made_callback {number : Nat} {template : Template} {parent : ContextId} :
    (Session.start.functions.push (.callback (echo.run []))).get? number ≠ some (.template template parent) := by
  intro found
  rw [Numbered.get?_push] at found
  split at found
  · cases found
  · exact Session.start_no_template found

/-- Once the first function is made, it is the only one that a template makes. -/
theorem made_first {number : Nat} {template : Template} {parent : ContextId}
    (found : ((Session.start.functions.push (.callback (echo.run []))).push (.template oppositeTemplate ⟨1⟩)).get?
      number = some (.template template parent)) : template = oppositeTemplate := by
  rw [Numbered.get?_push] at found
  split at found
  · cases found
    rfl
  · exact absurd found made_callback

theorem made_second {number : Nat} {template : Template} {parent : ContextId}
    (found : (((Session.start.functions.push (.callback (echo.run []))).push (.template oppositeTemplate ⟨1⟩)).push
      (.template restoredTemplate ⟨1⟩)).get? number = some (.template template parent)) :
    template = oppositeTemplate ∨ template = restoredTemplate := by
  rw [Numbered.get?_push] at found
  split at found
  · cases found
    exact .inr rfl
  · exact .inl (made_first found)

/-- What the first function finds when it is made. -/
theorem first_finds : oppositeTemplate.Finds numeric level (Session.after (operations.take 7)) ⟨5⟩ ⟨1⟩ 0 := by
  refine ⟨sound rfl (by decide), fun symbol mentioned value found => ?_, arguments _⟩
  have mentions : oppositeTemplate.block.mentions (Session.after (operations.take 7)).scopes = [input, input] := by
    rfl
  have unbound : (Session.after (operations.take 7)).contexts.value? ⟨1⟩ input = none := by rfl
  simp only [mentions, List.mem_cons, List.not_mem_nil, or_false, or_self] at mentioned
  subst mentioned
  cases unbound.symm.trans found

/-- The second one finds the first. -/
theorem second_finds : restoredTemplate.Finds numeric level (Session.after (operations.take 9)) ⟨6⟩ ⟨1⟩ 1 := by
  refine ⟨sound rfl (by decide), fun symbol mentioned value found => ?_, arguments _⟩
  have mentions : restoredTemplate.block.mentions (Session.after (operations.take 9)).scopes =
      [opposite, opposite, input, input] := by rfl
  have bound : (Session.after (operations.take 9)).contexts.value? ⟨1⟩ opposite = some oppositeFunction := by rfl
  have unbound : (Session.after (operations.take 9)).contexts.value? ⟨1⟩ input = none := by rfl
  simp only [mentions, List.mem_cons, List.not_mem_nil, or_false, or_self, ← or_assoc] at mentioned
  rcases mentioned with rfl | rfl
  · cases bound.symm.trans found
    rfl
  · cases unbound.symm.trans found

/-- Neither function looks up its own name, or that of a function above it. -/
theorem safe : Operation.AllSafe numeric level .start operations := by
  have defines_first : (Operation.define ⟨1⟩ opposite oppositeFunction).Safe numeric level
      (Session.after (operations.take 8)) := by
    intro number template parent below found _ mentioned _
    obtain rfl := made_first found
    have apart : opposite ∉ oppositeTemplate.block.mentions (Session.after (operations.take 8)).scopes := by decide
    exact absurd mentioned apart
  have defines_second : (Operation.define ⟨1⟩ restored restoredFunction).Safe numeric level
      (Session.after (operations.take 10)) := by
    intro number template parent below found _ mentioned _
    have apart : restored ∉ oppositeTemplate.block.mentions (Session.after (operations.take 10)).scopes ∧
        restored ∉ restoredTemplate.block.mentions (Session.after (operations.take 10)).scopes := by decide
    rcases made_second found with rfl | rfl
    · exact absurd mentioned apart.1
    · exact absurd mentioned apart.2
  -- the names are declared before any template is a function
  exact ⟨trivial, fun _ _ _ found => absurd found Session.start_no_template,
    fun _ _ _ found => absurd found Session.start_no_template, trivial,
    fun _ _ _ found => absurd found Session.start_no_template, trivial, Script.safe (.argument 0) nofun,
    ⟨by decide, 0, rfl, first_finds⟩, defines_first, ⟨by decide, 1, rfl, second_finds⟩, defines_second, trivial⟩

/-- A call of the second function with what the callback gives back. -/
def calls : Expr := callOf restored (.call (.literal echoFunction place) [.positional (.literal one place)] place)

end Restored

/-- A call of the second function with what the callback gives back ends after calls nested twice, and gives back the
same. -/
theorem Session.restored_ends :
    Operation.AllSafe Restored.numeric Restored.level start Restored.operations ∧
      EndsBy ((Session.after Restored.operations).evaluateAt .standard ⟨1⟩ Restored.calls) 2 ∧
      (Session.after Restored.operations).evaluateAt .standard ⟨1⟩ Restored.calls 2 = .ok (Restored.one, []) := by
  have shows : (Session.after Restored.operations).contexts.Shows Restored.numeric ⟨1⟩ [Restored.restored] := by
    intro symbol member value found
    cases List.mem_singleton.1 member
    have bound : (Session.after Restored.operations).contexts.value? ⟨1⟩ Restored.restored =
        some Restored.restoredFunction := by rfl
    cases bound.symm.trans found
    rfl
  have literals : ∀ value ∈ [Restored.echoFunction, Restored.one], value.wellFormed Restored.numeric = true := by
    intro value member
    rcases List.mem_pair.1 member with rfl | rfl <;> rfl
  obtain ⟨value, diagnostics, -, settled⟩ :=
    (Session.after_ends Restored.safe Restored.bounded .standard ⟨1⟩).1 Restored.calls shows literals
  exact ⟨Restored.safe, ⟨.ok (value, diagnostics), (nomatch ·), settled⟩, rfl⟩

end Circuitry
