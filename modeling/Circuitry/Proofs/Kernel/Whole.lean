import Circuitry.Proofs.Host.Contract
import Circuitry.Proofs.Kernel.Capability

/-!
# Types and values without placeholders

A value is whole when no placeholder stands in it at any depth, neither in a field nor as the default of a
parameter in a type that it mentions. What is read off a whole value, its type, its fields, the defaults of its
signature, is whole again. A host is whole when it makes no placeholder out of whole arguments.
-/

set_option autoImplicit false

namespace Circuitry

/-- Whether a type mentions no placeholder. -/
def Ty.whole (ty : Ty) : Bool := ty.everywhere (fun _ => true) fun value => !value.isPlaceholder

/-- Whether a value neither is nor mentions a placeholder. -/
def Value.whole (value : Value) : Bool := value.everywhere (fun _ => true) fun value => !value.isPlaceholder

/-! ### One level down -/

@[simp] theorem Value.whole_placeholder : Value.placeholder.whole = false := rfl

@[simp] theorem Value.whole_unknown {ty : Ty} : (Value.unknown ty).whole = ty.whole := by
  simp [Value.whole, Ty.whole, Value.everywhere, Value.isPlaceholder]

theorem Value.whole_known {ty : Ty} {payload : Payload} :
    (Value.known ty payload).whole = true ↔
      ty.whole = true ∧ payload.Mentions (fun ty => ty.whole = true) (fun value => value.whole = true) := by
  simp [Value.whole, Ty.whole, Value.everywhere_known, Payload.everywhere_iff, Value.isPlaceholder]

theorem Ty.whole_object {attributes : List (String × Ty)} :
    (Ty.object attributes).whole = true ↔ ∀ entry ∈ attributes, entry.2.whole = true := by
  simp [Ty.whole, Ty.everywhere_object]

theorem Ty.whole_function {signature : Signature} :
    (Ty.function signature).whole = true ↔
      (∀ parameter ∈ signature.parameters,
          parameter.Mentions (fun ty => ty.whole = true) fun value => value.whole = true) ∧
        ∀ ty, signature.returns = .fixed ty → ty.whole = true := by
  simp [Ty.whole, Value.whole, Ty.everywhere_function, Parameter.everywhere_iff, ResultRule.everywhere_iff]

/-! ### What is read off a whole value -/

/-- A whole value has a type, which is whole. -/
theorem Value.ty_of_whole {value : Value} (whole : value.whole = true) :
    ∃ ty, value.ty? = some ty ∧ ty.whole = true := by
  cases value with
  | known ty payload => exact ⟨ty, rfl, (whole_known.1 whole).1⟩
  | unknown ty => exact ⟨ty, rfl, by simpa using whole⟩
  | placeholder => cases whole

theorem Value.whole_ty {value : Value} {ty : Ty} (whole : value.whole = true) (has : value.ty? = some ty) :
    ty.whole = true := by
  obtain ⟨_, found, wholeTy⟩ := ty_of_whole whole
  cases found.symm.trans has
  exact wholeTy

theorem Ty.whole_lookup {attributes : List (String × Ty)} (whole : (Ty.object attributes).whole = true)
    {name : String} {ty : Ty} (listed : attributes.lookup name = some ty) : ty.whole = true :=
  whole_object.1 whole _ (Record.mem_of_lookup listed)

/-- The fields of a whole object are whole. -/
theorem Value.member_whole {registry : Registry} {target : Value} {attributes : List (String × Ty)}
    (sound : target.wellFormed registry = true) (whole : target.whole = true)
    (has : target.ty? = some (.object attributes)) {name : String} {ty : Ty}
    (listed : attributes.lookup name = some ty) : (target.member name ty).whole = true := by
  cases target with
  | placeholder => cases has
  | unknown ty' =>
    rw [member_of_unknown, whole_unknown]
    exact Ty.whole_lookup (whole_ty whole has) listed
  | known ty' payload =>
    cases has
    obtain ⟨fields, value, rfl, found, -⟩ := Payload.field_of_attribute sound listed
    rw [member_of_known found]
    exact (whole_known.1 whole).2.1 fields rfl _ (Record.mem_of_lookup found)

/-- If whole arguments have a result type, then it is whole. -/
theorem Signature.resultType_whole {signature : Signature} (whole : (Ty.function signature).whole = true)
    {arguments : List Value} (wholeArguments : ∀ argument ∈ arguments, argument.whole = true) {ty : Ty}
    (predicted : signature.resultType (arguments.filterMap Value.ty?) = .ok ty) : ty.whole = true := by
  unfold resultType at predicted
  split at predicted
  · rename_i fixed returns
    cases predicted
    exact (Ty.whole_function.1 whole).2 ty returns
  · split at predicted
    · rename_i found
      cases predicted
      obtain ⟨argument, member, has⟩ := List.mem_filterMap.1 (List.mem_of_getElem? found)
      exact Value.whole_ty (wholeArguments argument member) has
    · cases predicted

/-! ### Hosts -/

/-- Callbacks and models do not answer with placeholders, nor do the types of models mention any. This is promised
for arguments that are whole themselves. -/
structure Host.Whole (registry : Registry) (host : Host) : Prop where
  attributeType : ∀ kind name ty, (host.model kind).attributeType? name = some ty → ty.whole = true
  attributeValue : ∀ kind id name ty value, registry.holds id kind = true →
    (host.model kind).attributeType? name = some ty → (host.model kind).attribute? id name = some value →
    value.whole = true
  signature : ∀ kind signature, (host.model kind).signature? = some signature →
    (Ty.function signature).whole = true
  callModel : ∀ kind id signature arguments value, registry.holds id kind = true →
    (host.model kind).signature? = some signature → signature.Admits registry arguments →
    (∀ argument ∈ arguments, argument.whole = true) → (host.model kind).call id arguments = .ok value →
    value.whole = true
  call : ∀ id signature arguments value, registry.allows id signature = true → signature.Admits registry arguments →
    (∀ argument ∈ arguments, argument.whole = true) → host.call id arguments = .ok (.ok value) → value.whole = true

theorem Host.affirming_whole : affirming.Whole .ofPredicates where
  attributeType _ _ _ found := by cases found
  attributeValue _ _ _ _ _ held := by cases held
  signature _ _ found := by cases found
  callModel _ _ _ _ _ held := by cases held
  call _ _ _ _ _ _ _ same := by
    cases same
    rfl

end Circuitry
