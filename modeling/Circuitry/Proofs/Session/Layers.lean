import Circuitry.Proofs.Kernel.Layer
import Circuitry.Proofs.Session.Depth
import Circuitry.Proofs.Session.Operations
import Circuitry.Proofs.Session.Shelter

/-!
# Functions in layers

Calls of templates end if functions lie in layers such that each template finds functions of lower layers only: in
its literals and defaults, under the names that its block mentions as they are bound around the function, and in the
arguments that it may be called with. Then a call at a layer leads to calls below it and to no others, so as many
nested calls as there are layers are enough. The induction is on the depth: a host in which calls nest to some depth
is sound for the functions up to the layer of that number.
-/

set_option autoImplicit false

namespace Circuitry

variable {registry later : Registry} {layer : FunctionId → Nat} {session : Session}

/-! ### Sound for more -/

theorem Template.Sound.grows {template : Template} (grows : registry.Grows later)
    (sound : template.Sound registry) : template.Sound later where
  parameters parameter member := by
    have before := sound.parameters parameter member
    refine ⟨Ty.wellFormed_grows grows before.ty, fun value is => ?_⟩
    obtain ⟨soundValue, has⟩ := before.fallback value is
    exact ⟨Value.wellFormed_grows grows soundValue, has⟩
  literals statement member value literal :=
    Value.wellFormed_grows grows (sound.literals statement member value literal)

theorem ContextForest.Shows.grows {forest : ContextForest} {context : ContextId} {symbols : List Symbol}
    (grows : registry.Grows later) (shows : forest.Shows registry context symbols) :
    forest.Shows later context symbols :=
  fun symbol member value found => Value.wellFormed_grows grows (shows symbol member value found)

theorem Signature.Admits.grows {signature : Signature} {arguments : List Value} (grows : registry.Grows later)
    (admitted : signature.Admits registry arguments) : signature.Admits later arguments where
  known := admitted.known
  sound argument member := Value.wellFormed_grows grows (admitted.sound argument member)
  accepted := admitted.accepted

/-- Where all parameters are data, no argument holds a function. -/
theorem Signature.Admits.of_data {signature : Signature} {arguments : List Value}
    (admitted : signature.Admits registry arguments)
    (data : ∀ parameter ∈ signature.parameters, ∃ ty, parameter.constraint = .exactly ty ∧ ty.isData = true ∧
      ty.wellFormed registry = true) :
    ∀ argument ∈ arguments, argument.wellFormed later = true := by
  intro argument member
  obtain ⟨parameter, listed, accepted⟩ := forall₂_left admitted.accepted.flip member
  obtain ⟨ty, exactly, isData, soundTy⟩ := data parameter listed
  have known := admitted.known argument member
  cases argument with
  | unknown ty | placeholder => cases known
  | known found payload =>
    have same : ty.same found = true := by
      have accepts := accepted found rfl
      rw [exactly] at accepts
      exact accepts
    exact Value.wellFormed_of_data (admitted.sound _ member) soundTy (Value.hasType_iff.2 ⟨found, rfl, same⟩) isData

/-! ### Layers -/

variable (registry layer session) in
/-- All that a template finds when it is called as a function lies in given layers. -/
structure Template.Finds (template : Template) (id : FunctionId) (parent : ContextId) (top : Nat) : Prop where
  sound : template.Sound (registry.upTo layer top)
  shows : session.contexts.Shows (registry.upTo layer top) parent (template.block.mentions session.scopes)
  arguments : ∀ signature arguments, registry.allows id signature = true → signature.Admits registry arguments →
    ∀ argument ∈ arguments, argument.wellFormed (registry.upTo layer top) = true

/-- A session whose functions lie in layers. Callbacks return well-formed values with functions of no layer above
theirs; a template finds only functions of layers below that of the function it makes, binds no symbol twice, and is
instantiated in a context that is there. -/
structure Session.Layered (registry : Registry) (layer : FunctionId → Nat) (session : Session) : Prop where
  closed : session.contexts.Closed
  callbacks : ∀ top, (session.hostWith fun _ _ _ => .ok (.error "")).Sound (registry.upTo layer top)
  finds : ∀ number template parent, session.functions.get? number = some (.template template parent) →
    ∃ below, layer ⟨number⟩ = below + 1 ∧ template.Finds registry layer session ⟨number⟩ parent below
  distinct : ∀ number template parent, session.functions.get? number = some (.template template parent) →
    template.targets.Nodup
  inside : ∀ number template parent, session.functions.get? number = some (.template template parent) →
    parent.index < session.contexts.nodes.size

namespace Session

/-- A host is sound if its callbacks are, and so is what it makes of templates. -/
theorem hostWith_sound {callTemplate : Template → ContextId → List Value → Except Fault CallResult}
    (callbacks : (session.hostWith fun _ _ _ => .ok (.error "")).Sound registry)
    (templates : ∀ number template parent, session.functions.get? number = some (.template template parent) →
      ∀ signature arguments, registry.allows ⟨number⟩ signature = true → signature.Admits registry arguments →
        ∃ result, callTemplate template parent arguments = .ok result ∧
          ∀ value, result = .ok value → value.wellFormed registry = true) :
    (session.hostWith callTemplate).Sound registry where
  attributeType := callbacks.attributeType
  attributeValue := callbacks.attributeValue
  signature := callbacks.signature
  callModel := callbacks.callModel
  call id signature arguments allowed admitted := by
    have called := callbacks.call id signature arguments allowed admitted
    simp only [hostWith] at called ⊢
    cases found : session.functions.get? id.index with
    | none =>
      rw [found] at called
      exact called
    | some body =>
      rw [found] at called
      cases body with
      | builtin builtin => exact called
      | callback run => exact called
      | template template parent => exact templates id.index template parent found signature arguments allowed admitted

/-- A template called as a function makes an instance, and passes on its value or what it reports. -/
theorem callTemplate_sound {hostIn : ContextForest → Host} {contexts : ContextForest} {template : Template}
    {parent : ContextId} {arguments : List Value}
    (hosts : ∀ contexts, session.Undisturbed contexts → (hostIn contexts).Sound registry)
    (undisturbed : session.Undisturbed contexts) (sound : template.Sound registry)
    (shows : contexts.Shows registry parent (template.block.mentions session.scopes))
    (distinct : template.targets.Nodup)
    (soundArguments : ∀ argument ∈ arguments, argument.wellFormed registry = true) :
    ∃ result, session.callTemplate hostIn contexts template parent arguments = .ok result ∧
      ∀ value, result = .ok value → value.wellFormed registry = true := by
  have named : ∀ argument ∈ template.named arguments, argument.2.wellFormed registry = true := by
    intro argument member
    obtain ⟨⟨parameter, value⟩, zipped, rfl⟩ := List.mem_map.1 member
    exact soundArguments value (List.of_mem_zip zipped).2
  obtain ⟨last, value, diagnostics, ran, soundValue⟩ | ⟨_, _, -, clash⟩ :=
    Template.instantiate_completes ⟨session.scopes, hostIn, .standard⟩ hosts sound undisturbed shows named
  · refine ⟨Template.callResult value diagnostics, by simp only [callTemplate, ran], fun result same => ?_⟩
    unfold Template.callResult at same
    split at same
    · cases same
      exact soundValue
    · cases same
  · exact absurd distinct clash

namespace Layered

variable (layered : session.Layered registry layer)
include layered

theorem undisturbed : session.Undisturbed session.contexts :=
  ⟨layered.closed, layered.inside, fun _ _ _ _ _ _ => rfl⟩

/-- With calls nested to some depth, the functions up to the layer of that number answer. -/
theorem hostIn_sound (depth : Nat) {contexts : ContextForest} (undisturbed : session.Undisturbed contexts) :
    (session.hostIn depth contexts).Sound (registry.upTo layer depth) := by
  induction depth generalizing contexts with
  | zero =>
    refine hostWith_sound (layered.callbacks 0) fun number template parent made signature _ allowed _ => ?_
    -- the functions of templates lie above the lowest layer
    obtain ⟨below, above, -⟩ := layered.finds number template parent made
    have lowest := (Registry.allows_upTo.1 allowed).2
    omega
  | succ depth ih =>
    refine hostWith_sound (layered.callbacks (depth + 1))
      fun number template parent made signature arguments allowed admitted => ?_
    obtain ⟨below, above, finds⟩ := layered.finds number template parent made
    obtain ⟨allowed, within⟩ := Registry.allows_upTo.1 allowed
    have grows : (registry.upTo layer below).Grows (registry.upTo layer depth) := Registry.upTo_grows (by omega)
    have soundArguments := finds.arguments signature arguments allowed
      (admitted.grows (registry.upTo_grows_self layer (depth + 1)))
    have shows : contexts.Shows (registry.upTo layer depth) parent (template.block.mentions session.scopes) := by
      intro symbol mentioned value found
      rw [undisturbed.values number template parent made symbol mentioned] at found
      exact finds.shows.grows grows symbol mentioned value found
    obtain ⟨result, called, soundResult⟩ :=
      callTemplate_sound (fun _ => ih) undisturbed (finds.sound.grows grows) shows
        (layered.distinct number template parent made)
        fun argument member => Value.wellFormed_grows grows (soundArguments argument member)
    exact ⟨result, called, fun value same =>
      Value.wellFormed_grows (Registry.upTo_grows (Nat.le_succ depth)) (soundResult value same)⟩

end Layered

/-- In a session whose functions lie in layers, everything ends after calls that nest no deeper than there are layers:
the evaluation of an expression, with a well-formed value; the execution of a block that binds no symbol which a
function looks up; and the instantiation of a template. -/
theorem layered_ends (layered : session.Layered registry layer) {top : Nat}
    (bounded : ∀ id signature, registry.allows id signature = true → layer id ≤ top) (settings : Settings)
    (context : ContextId) :
    (∀ expr : Expr, session.contexts.Shows registry context expr.symbols →
      (∀ value ∈ expr.literals, value.wellFormed registry = true) →
      ∃ value diagnostics, value.wellFormed registry = true ∧
        ∀ depth, top ≤ depth → session.evaluateAt settings context expr depth = .ok (value, diagnostics)) ∧
    (∀ block : Block, session.Ready registry ⟨context, block.statements.filterMap Statement.target?,
        block.mentions session.scopes⟩ session.contexts →
      (∀ statement ∈ block.statements, ∀ value ∈ statement.expr.literals, value.wellFormed registry = true) →
      EndsBy (session.executeAt settings context block) top) ∧
    (∀ (template : Template) (arguments : List (String × Value)), template.Sound registry →
      session.contexts.Shows registry context (template.block.mentions session.scopes) →
      (∀ argument ∈ arguments, argument.2.wellFormed registry = true) →
      EndsBy (session.instantiateAt settings context template arguments) top) := by
  have grows := registry.grows_upTo bounded
  have hosts : ∀ contexts, session.Undisturbed contexts →
      ((session.surroundingsAt top settings).hostIn contexts).Sound (registry.upTo layer top) :=
    fun _ => layered.hostIn_sound top
  refine ⟨fun expr shows literals => ?_, fun block ready literals => ?_,
    fun template arguments sound shows soundArguments => ?_⟩
  · obtain ⟨value, diagnostics, gave, soundValue⟩ := expr.eval_gives_of_symbols
      ((session.surroundingsAt top settings).environment session.contexts context)
      (hosts _ layered.undisturbed) (shows.grows grows)
      fun value literal => Value.wellFormed_grows grows (literals value literal)
    refine ⟨value, diagnostics, Value.wellFormed_grows (registry.upTo_grows_self layer top) soundValue,
      fun depth le => ?_⟩
    have kept := (session.evaluateAt_stable settings context expr).keptBy le
    have gave : session.evaluateAt settings context expr top = .ok (value, diagnostics) := gave
    rw [gave] at kept
    exact kept.eq_of_ne (fun impossible => nomatch impossible)
  · refine (session.executeAt_stable settings context block).endsBy ?_
    have ready' : session.Ready (registry.upTo layer top) _ session.contexts :=
      ⟨ready.toSheltered, ready.shows.grows grows⟩
    have completes := block.run_completes ⟨context, _, _⟩ hosts (fun statement member value literal =>
      Value.wellFormed_grows grows (literals statement member value literal)) (List.Subset.refl _)
      (List.Subset.refl _)
    exact completes.not_deep ready'
  · refine (session.instantiateAt_stable settings context template arguments).endsBy ?_
    have made := Template.instantiate_completes _ hosts (sound.grows grows) layered.undisturbed
      (shows.grows grows) fun argument member => Value.wellFormed_grows grows (soundArguments argument member)
    unfold instantiateAt
    rcases made with ⟨_, _, _, same, -⟩ | ⟨_, _, same, -⟩
    · rw [same]
      exact fun deep => nomatch deep
    · rw [same]
      exact fun deep => nomatch deep

end Session

end Circuitry
