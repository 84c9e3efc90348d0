import Circuitry.Kernel.Capability
import Circuitry.Proofs.Kernel.Refinement

/-!
# What is assumed of the host

Promises that a host may make about its callbacks and models, each only for calls that the language makes:
the function goes by the signature it is called under, the object is of its kind, and the arguments are known,
well-formed and accepted by the signature.
-/

set_option autoImplicit false

namespace Circuitry

/-- There is an argument for every parameter, and every argument that has a type satisfies its constraint. -/
def Signature.AcceptsAll (signature : Signature) (arguments : List Value) : Prop :=
  List.Forall₂
    (fun parameter argument => ∀ ty, argument.ty? = some ty →
      parameter.constraint.accepts ty (arguments.map Value.ty?) = true)
    signature.parameters arguments

/-- Known, well-formed arguments that satisfy the constraints of a signature. -/
structure Signature.Admits (registry : Registry) (signature : Signature) (arguments : List Value) : Prop where
  known : ∀ argument ∈ arguments, argument.isKnown = true
  sound : ∀ argument ∈ arguments, argument.wellFormed registry = true
  accepted : signature.AcceptsAll arguments

/-- Two calls end alike: with values that are the same, or both in failure. -/
inductive CallResult.Alike : CallResult → CallResult → Prop where
  | returned {value value' : Value} (same : value.same value' = true) : Alike (.ok value) (.ok value')
  | failed (message message' : String) : Alike (.error message) (.error message')

namespace Host

/-- Callbacks return, and what they return is well-formed. So are the types and signatures of models. -/
structure Sound (registry : Registry) (host : Host) : Prop where
  attributeType : ∀ kind name ty, (host.model kind).attributeType? name = some ty →
    ty.wellFormed registry = true
  attributeValue : ∀ kind id name ty value, registry.holds id kind = true →
    (host.model kind).attributeType? name = some ty → (host.model kind).attribute? id name = some value →
    value.wellFormed registry = true
  signature : ∀ kind signature, (host.model kind).signature? = some signature →
    (Ty.function signature).wellFormed registry = true
  callModel : ∀ kind id signature arguments value, registry.holds id kind = true →
    (host.model kind).signature? = some signature → signature.Admits registry arguments →
    (host.model kind).call id arguments = .ok value → value.wellFormed registry = true
  call : ∀ id signature arguments, registry.allows id signature = true →
    signature.Admits registry arguments →
    ∃ result, host.call id arguments = .ok result ∧
      ∀ value, result = .ok value → value.wellFormed registry = true

/-- What callbacks return has the type that was predicted for it. -/
structure Honest (registry : Registry) (host : Host) : Prop where
  attributeValue : ∀ kind id name ty value, registry.holds id kind = true →
    (host.model kind).attributeType? name = some ty → (host.model kind).attribute? id name = some value →
    value.hasType ty = true
  callModel : ∀ kind id signature arguments value, registry.holds id kind = true →
    (host.model kind).signature? = some signature → signature.Admits registry arguments →
    (host.model kind).call id arguments = .ok value →
    ∃ ty, signature.resultType (arguments.filterMap Value.ty?) = .ok ty ∧ value.hasType ty = true
  call : ∀ id signature arguments value, registry.allows id signature = true →
    signature.Admits registry arguments → host.call id arguments = .ok (.ok value) →
    ∃ ty, signature.resultType (arguments.filterMap Value.ty?) = .ok ty ∧ value.hasType ty = true

/-- Every attribute that has a type has a value. -/
def Complete (registry : Registry) (host : Host) : Prop :=
  ∀ kind id name ty, registry.holds id kind = true → (host.model kind).attributeType? name = some ty →
    ∃ value, (host.model kind).attribute? id name = some value

/-- Another host answers alike, except that it says more where more is known. -/
structure RefinedBy (registry : Registry) (host other : Host) : Prop where
  attributeType : ∀ kind kind' name, kind.index = kind'.index →
    Option.Rel (fun ty ty' => ty.same ty' = true)
      ((host.model kind).attributeType? name) ((other.model kind').attributeType? name)
  attributeValue : ∀ kind kind' id name value value', kind.index = kind'.index →
    registry.holds id kind = true → registry.holds id kind' = true →
    (host.model kind).attribute? id name = some value →
    (other.model kind').attribute? id name = some value' → value.RefinedBy registry value'
  signature : ∀ kind kind', kind.index = kind'.index →
    Option.Rel (fun signature signature' => signature.same signature' = true)
      (host.model kind).signature? (other.model kind').signature?
  callModel : ∀ kind kind' id signature signature' arguments arguments' value value',
    kind.index = kind'.index → registry.holds id kind = true → registry.holds id kind' = true →
    (host.model kind).signature? = some signature → (other.model kind').signature? = some signature' →
    signature.Admits registry arguments → signature'.Admits registry arguments' →
    List.Forall₂ (Value.RefinedBy registry) arguments arguments' →
    (host.model kind).call id arguments = .ok value → (other.model kind').call id arguments' = .ok value' →
    value.RefinedBy registry value'
  call : ∀ id signature signature' arguments arguments' value value',
    registry.allows id signature = true → registry.allows id signature' = true →
    signature.same signature' = true →
    signature.Admits registry arguments → signature'.Admits registry arguments' →
    List.Forall₂ (Value.RefinedBy registry) arguments arguments' →
    host.call id arguments = .ok (.ok value) → other.call id arguments' = .ok (.ok value') →
    value.RefinedBy registry value'

/-- Another host answers alike: to what is the same it answers the same. -/
structure Agrees (registry : Registry) (host other : Host) : Prop where
  attributeType : ∀ kind kind' name, kind.index = kind'.index →
    Option.Rel (fun ty ty' => ty.same ty' = true)
      ((host.model kind).attributeType? name) ((other.model kind').attributeType? name)
  attributeValue : ∀ kind kind' id name, kind.index = kind'.index →
    registry.holds id kind = true → registry.holds id kind' = true →
    Option.Rel (fun value value' => value.same value' = true)
      ((host.model kind).attribute? id name) ((other.model kind').attribute? id name)
  signature : ∀ kind kind', kind.index = kind'.index →
    Option.Rel (fun signature signature' => signature.same signature' = true)
      (host.model kind).signature? (other.model kind').signature?
  callModel : ∀ kind kind' id signature signature' arguments arguments',
    kind.index = kind'.index → registry.holds id kind = true → registry.holds id kind' = true →
    (host.model kind).signature? = some signature → (other.model kind').signature? = some signature' →
    signature.Admits registry arguments → signature'.Admits registry arguments' →
    List.Forall₂ (fun argument argument' => argument.same argument' = true) arguments arguments' →
    CallResult.Alike ((host.model kind).call id arguments) ((other.model kind').call id arguments')
  call : ∀ id signature signature' arguments arguments' result result',
    registry.allows id signature = true → registry.allows id signature' = true →
    signature.same signature' = true →
    signature.Admits registry arguments → signature'.Admits registry arguments' →
    List.Forall₂ (fun argument argument' => argument.same argument' = true) arguments arguments' →
    host.call id arguments = .ok result → other.call id arguments' = .ok result' →
    CallResult.Alike result result'

/-! ### A host that keeps all promises -/

/-- A host without models, whose functions answer every call with true. -/
def affirming : Host where
  model _ := ⟨fun _ => none, fun _ _ => none, [], none, ModelBehavior.notCallable⟩
  call _ _ := .ok (.ok (.ofBool true))

end Host

/-- A registry in which every function returns a truth value, and no object is of any kind. -/
def Registry.ofPredicates : Registry where
  allows _ signature :=
    match signature with
    | ⟨_, .fixed .bool⟩ => true
    | _ => false
  holds _ _ := false

theorem Registry.ofPredicates_returns {id : FunctionId} {signature : Signature}
    (allowed : Registry.ofPredicates.allows id signature = true) (types : List Ty) :
    signature.resultType types = .ok .bool := by
  simp only [Registry.ofPredicates] at allowed
  split at allowed
  · rfl
  · cases allowed

namespace Host

theorem affirming_sound : affirming.Sound .ofPredicates where
  attributeType _ _ _ found := by cases found
  attributeValue _ _ _ _ _ held := by cases held
  signature _ _ found := by cases found
  callModel _ _ _ _ _ held := by cases held
  call _ _ _ _ _ := ⟨.ok (.ofBool true), rfl, fun value same => by cases same; rfl⟩

theorem affirming_honest : affirming.Honest .ofPredicates where
  attributeValue _ _ _ _ _ held := by cases held
  callModel _ _ _ _ _ held := by cases held
  call _ _ _ _ allowed _ same := by
    cases same
    exact ⟨.bool, Registry.ofPredicates_returns allowed _, rfl⟩

theorem affirming_complete : affirming.Complete .ofPredicates := by
  intro _ _ _ _ held
  cases held

theorem affirming_refinedBy : affirming.RefinedBy .ofPredicates affirming where
  attributeType _ _ _ _ := .none
  attributeValue _ _ _ _ _ _ _ held := by cases held
  signature _ _ _ := .none
  callModel _ _ _ _ _ _ _ _ _ _ held := by cases held
  call _ _ _ _ _ _ _ _ _ _ _ _ _ same same' := by
    cases same
    cases same'
    exact .refl rfl

theorem affirming_agrees : affirming.Agrees .ofPredicates affirming where
  attributeType _ _ _ _ := .none
  attributeValue _ _ _ _ _ held := by cases held
  signature _ _ _ := .none
  callModel _ _ _ _ _ _ _ _ held := by cases held
  call _ _ _ _ _ _ _ _ _ _ _ _ _ same same' := by
    cases same
    cases same'
    exact .returned rfl

end Host

end Circuitry
